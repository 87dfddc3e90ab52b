import SbtWorkspace.FileSystem.Resolve

/-! The location that a route names, with its links followed where they lead. Unlike `resolve` this never
fails: names that lead nowhere stay, a step up takes away the name before it even if that leads nowhere,
and from a link that leads back to itself on, all links stay. Main statement: where there are no links,
only the steps up count (`canonical_of_no_links`). -/

namespace SbtWorkspace.FileSystem

/-- The location that names lead to so far, and whether a link on the way leads back to itself. -/
structure Trace where
  loc : Location
  circular : Bool := false

/-- One name more on a trace. `follow` takes over at a link, with its location, the location from where
its target is read, and the names of its target. -/
def traceStep (fs : FileSystem) (follow : Location → Location → List String → Trace) (t : Trace)
    (step : String) : Trace :=
  if step = "" ∨ step = "." then t
  else if step = ".." then { t with loc := t.loc.tail }
  else if t.circular then { t with loc := step :: t.loc }
  else match fs.lookup (step :: t.loc) with
    | some (.link target) =>
      let route := Route.ofString target
      follow (step :: t.loc) (if route.isAbsolute then [] else t.loc) route.steps
    | _ => ⟨step :: t.loc, false⟩

/-- The trace of names from a location. The links in `active` are those whose targets are being read; one
of them that is met again is circular. Each of them is another entry of the file system, so as many
levels as there are entries suffice. -/
def trace (fs : FileSystem) : (levels : Nat) → (active : List Location) → Location → List String → Trace
  | 0, _, start, steps => steps.foldl (fs.traceStep fun link _ _ => ⟨link, true⟩) ⟨start, false⟩
  | levels + 1, active, start, steps =>
    let follow (link start : Location) (steps : List String) : Trace :=
      if link ∈ active then ⟨link, true⟩ else trace fs levels (link :: active) start steps
    steps.foldl (fs.traceStep follow) ⟨start, false⟩

def canonical (fs : FileSystem) (cwd : Location) (route : Route) : Location :=
  (fs.trace fs.entries.length [] (if route.isAbsolute then [] else cwd) route.steps).loc

def lexical (start : Location) (steps : List String) : Location :=
  steps.foldl (fun loc step =>
    if step = "" ∨ step = "." then loc else if step = ".." then loc.tail else step :: loc) start

theorem foldl_traceStep_of_no_links {fs : FileSystem} (h : ∀ loc target, fs.lookup loc ≠ some (.link target))
    (follow : Location → Location → List String → Trace) (loc : Location) (steps : List String) :
    steps.foldl (fs.traceStep follow) ⟨loc, false⟩ = ⟨lexical loc steps, false⟩ := by
  induction steps generalizing loc with
  | nil => rfl
  | cons step steps ih =>
    have hs : fs.traceStep follow ⟨loc, false⟩ step = ⟨lexical loc [step], false⟩ := by
      simp only [traceStep, lexical, List.foldl_cons, List.foldl_nil]
      split
      · rfl
      split
      · rfl
      · rw [if_neg (by simp)]
        split
        · rename_i target hl
          exact absurd hl (h _ target)
        · rfl
    rw [List.foldl_cons, hs, ih]
    rfl

theorem canonical_of_no_links {fs : FileSystem}
    (h : ∀ loc target, fs.lookup loc ≠ some (.link target)) (cwd : Location) (route : Route) :
    fs.canonical cwd route = lexical (if route.isAbsolute then [] else cwd) route.steps := by
  unfold canonical
  cases fs.entries.length <;> simp only [trace, foldl_traceStep_of_no_links h]

end SbtWorkspace.FileSystem

namespace SbtWorkspace

def Location.pathTo (start goal : Location) : String :=
  let shared := ((start.reverse.zip goal.reverse).takeWhile fun p => p.1 = p.2).length
  let names := List.replicate (start.length - shared) ".." ++ goal.reverse.drop shared
  if names = [] then "." else "/".intercalate names

end SbtWorkspace
