import SbtWorkspace.Proofs.Action
import SbtWorkspace.Proofs.FileSystem.Way

/-! How a run ends, with a result or with a failure. For each way to put operations together there is a rule;
the calls that take a path are refused for reasons of the system, and for a null byte only if the path has
one. Main statements: `Ends.bind`, `Ends.tryCatch`, and `ends_ensurePath`. -/

namespace SbtWorkspace

namespace Action

variable {α β : Type} {c : Context} {m : Machine} {p : Path}

/-- From a machine an operation ends with a result and a machine of which `post` holds, or with a failure and
a machine of which `lost` holds. -/
structure Ends (c : Context) (m : Machine) (x : Action α) (post : α → Machine → Prop)
    (lost : Failure → Machine → Prop) : Prop where
  post_of_run : ∀ {a : α} {m' : Machine}, x.run c m = (.ok a, m') → post a m'
  lost_of_run : ∀ {e : Failure} {m' : Machine}, x.run c m = (.error e, m') → lost e m'

section

variable {post post' : α → Machine → Prop} {lost lost' : Failure → Machine → Prop} {x : Action α}

theorem Ends.of_run {r : Except Failure α} {m' : Machine} (h : x.run c m = (r, m'))
    (hok : ∀ a, r = .ok a → post a m') (herror : ∀ e, r = .error e → lost e m') :
    Ends c m x post lost where
  post_of_run hx := by
    rw [h] at hx
    cases hx
    exact hok _ rfl
  lost_of_run hx := by
    rw [h] at hx
    cases hx
    exact herror _ rfl

theorem Ends.mono (h : Ends c m x post lost) (hok : ∀ a m', post a m' → post' a m')
    (herror : ∀ e m', lost e m' → lost' e m') : Ends c m x post' lost' where
  post_of_run hx := hok _ _ (h.post_of_run hx)
  lost_of_run hx := herror _ _ (h.lost_of_run hx)

theorem Ends.lost_run (h : Ends c m x post lost) :
    Ends c m x post fun e m' => lost e m' ∧ x.run c m = (.error e, m') where
  post_of_run hx := h.post_of_run hx
  lost_of_run hx := ⟨h.lost_of_run hx, hx⟩

theorem Ends.post_run (h : Ends c m x post lost) :
    Ends c m x (fun a m' => post a m' ∧ x.run c m = (.ok a, m')) lost where
  post_of_run hx := ⟨h.post_of_run hx, hx⟩
  lost_of_run hx := h.lost_of_run hx

/-- What holds of every end holds of the run. -/
theorem Ends.run {P : Except Failure α → Machine → Prop}
    (h : Ends c m x (fun a => P (.ok a)) fun e => P (.error e)) : P (x.run c m).1 (x.run c m).2 := by
  rcases hx : x.run c m with ⟨e | a, m'⟩
  · exact h.lost_of_run hx
  · exact h.post_of_run hx

theorem Ends.pure {a : α} (h : post a m) : Ends c m (pure a) post lost :=
  .of_run (run_pure a c m) (fun _ ha => Except.ok.inj ha ▸ h) fun _ he => by cases he

theorem Ends.throw {e : Failure} (h : lost e m) : Ends c m (throw e : Action α) post lost :=
  .of_run (run_throw e c m) (fun _ ha => by cases ha) fun _ he => Except.error.inj he ▸ h

theorem Ends.of_run_eq {y : Action α} {m' : Machine} (h : x.run c m = y.run c m')
    (hy : Ends c m' y post lost) : Ends c m x post lost where
  post_of_run hx := hy.post_of_run (h ▸ hx)
  lost_of_run hx := hy.lost_of_run (h ▸ hx)

theorem Ends.bind {f : α → Action β} {next : β → Machine → Prop} (hx : Ends c m x post lost)
    (hf : ∀ a m', post a m' → Ends c m' (f a) next lost) : Ends c m (x >>= f) next lost := by
  have hrun := run_bind x f c m
  rcases hr : x.run c m with ⟨e | a, m'⟩
  · rw [hr] at hrun
    exact .of_run hrun (fun _ ha => by cases ha) fun _ he => Except.error.inj he ▸ hx.lost_of_run hr
  · rw [hr] at hrun
    exact .of_run_eq hrun (hf a m' (hx.post_of_run hr))

theorem Ends.tryCatch {handle : Failure → Action α} (hx : Ends c m x post lost')
    (hh : ∀ e m', lost' e m' → Ends c m' (handle e) post lost) :
    Ends c m (tryCatch x handle) post lost := by
  have hrun := run_tryCatch x handle c m
  rcases hr : x.run c m with ⟨e | a, m'⟩
  · rw [hr] at hrun
    exact .of_run_eq hrun (hh e m' (hx.lost_of_run hr))
  · rw [hr] at hrun
    exact .of_run hrun (fun _ ha => Except.ok.inj ha ▸ hx.post_of_run hr) fun _ he => by cases he

theorem Ends.look {call : FileSystem → Location → Except Fault α} {path : String}
    (hok : ∀ a, call m.files c.cwd = .ok a → post a m)
    (herror : ∀ fault, call m.files c.cwd = .error fault → lost (.system ⟨fault, path, none⟩) m) :
    Ends c m (look call path) post lost := by
  refine .of_run (run_look call path c m) (fun a ha => ?_) fun e he => ?_
  · split at ha <;> cases ha
    exact hok _ ‹_›
  · split at he <;> cases he
    exact herror _ ‹_›

theorem Ends.change {call : FileSystem → Location → Except Fault FileSystem} {path : String}
    {post : Unit → Machine → Prop} (hok : ∀ fs, call m.files c.cwd = .ok fs → post () (m.change fs))
    (herror : ∀ fault, call m.files c.cwd = .error fault → lost (.system ⟨fault, path, none⟩) m) :
    Ends c m (change call path) post lost := by
  have hrun := run_change call path c m
  cases hc : call m.files c.cwd with
  | ok fs =>
    rw [hc] at hrun
    exact .of_run hrun (fun _ _ => hok fs hc) fun _ he => by cases he
  | error fault =>
    rw [hc] at hrun
    exact .of_run hrun (fun _ ha => by cases ha) fun _ he => Except.error.inj he ▸ herror fault hc

theorem Ends.context {post : Context → Machine → Prop} (h : post c m) :
    Ends c m context post lost :=
  .of_run rfl (fun _ ha => Except.ok.inj ha ▸ h) fun _ he => by cases he

theorem Ends.files {post : FileSystem → Machine → Prop} (h : post m.files m) :
    Ends c m files post lost :=
  .of_run rfl (fun _ ha => Except.ok.inj ha ▸ h) fun _ he => by cases he

theorem Ends.report {e : Event} {post : Unit → Machine → Prop}
    (h : post () { m with events := m.events ++ [e] }) : Ends c m (report e) post lost :=
  .of_run rfl (fun _ _ => h) fun _ he => by cases he

theorem Ends.known {find : Environment → Option α} (hok : ∀ a, find c.env = some a → post a m)
    (herror : find c.env = none → lost .unknownHome m) : Ends c m (known find) post lost := by
  have hc : Ends c m Action.context (fun c' m' => c' = c ∧ m' = m) lost := .context ⟨rfl, rfl⟩
  refine hc.bind ?_
  rintro _ _ ⟨rfl, rfl⟩
  split
  · exact .pure (hok _ ‹_›)
  · exact .throw (herror ‹_›)

theorem Ends.ofExcept {ε : Type} {failure : ε → Failure} {r : Except ε α}
    (hok : ∀ a, r = .ok a → post a m) (herror : ∀ e, r = .error e → lost (failure e) m) :
    Ends c m (ofExcept failure r) post lost := by
  cases r with
  | ok a => exact .pure (hok a rfl)
  | error e => exact .throw (herror e rfl)

theorem Ends.discard {post : Unit → Machine → Prop} (h : Ends c m x (fun _ => post ()) lost) :
    Ends c m (discard x) post lost :=
  .bind h fun _ _ hp => .pure hp

/-- Whether a machine was left and gone through with related file systems only. -/
def Passed (R : FileSystem → FileSystem → Prop) (m m' : Machine) : Prop :=
  R m.files m'.files ∧ ∀ other ∈ m'.past, other ∈ m.past ∨ R m.files other

/-- An operation goes through related file systems also where it ends with a failure. -/
theorem Ends.of_meets {R : FileSystem → FileSystem → Prop} {after : α → FileSystem → Prop}
    (h : Meets R c m.files x after) :
    Ends c m x (fun a m' => Passed R m m' ∧ after a m'.files) fun _ m' => Passed R m m' where
  post_of_run hx := by
    obtain ⟨hR, hpast, hp⟩ := h m rfl
    rw [hx] at hR hpast hp
    exact ⟨⟨hR, hpast⟩, hp _ rfl⟩
  lost_of_run hx := by
    obtain ⟨hR, hpast, -⟩ := h m rfl
    rw [hx] at hR hpast
    exact ⟨hR, hpast⟩

/-- An operation that gives a result without a change ends with it. -/
theorem Ends.of_answers {r : α} (h : Answers c m.files x r) :
    Ends c m x (fun r' m' => r' = r ∧ m'.files = m.files) lost := by
  obtain ⟨m', hx, hm'⟩ := h m rfl
  exact .of_run hx (fun _ hr => ⟨(Except.ok.inj hr).symm, hm'⟩) fun _ he => by cases he

theorem Ends.report_pure {e : Event} {r : α} (h : ∀ m' : Machine, m'.files = m.files → post r m') :
    Ends c m (do Action.report e; return r) post lost := by
  have hreport : Ends c m (Action.report e) (fun _ m' => m'.files = m.files) lost := .report rfl
  exact hreport.bind fun _ m' hm' => .pure (h m' hm')

/-- What sees no difference between a file system and itself leaves it, also with a failure. -/
theorem Ends.of_alike (h : Alike c m.files m.files x) :
    Ends c m x (fun _ m' => m'.files = m.files) fun _ m' => m'.files = m.files := by
  obtain ⟨r, es, hx, -⟩ := h m
  have hx : x.run c m = (r, { m with events := m.events ++ es }) := hx
  exact .of_run hx (fun _ _ => rfl) fun _ _ => rfl

end

end Action

/-! ## Null bytes -/

def Path.NulFree (p : Path) : Prop := '\x00' ∉ p.render.toList

theorem Path.NulFree.div {p : Path} {name : String} (h : p.NulFree) (hname : Path.IsPart name)
    (hn : '\x00' ∉ name.toList) : (p / name).NulFree :=
  fun hm => (Path.mem_render_div hname (by decide) hm).elim h hn

theorem Path.NulFree.of_div {p : Path} {name : String} (h : (p / name).NulFree)
    (hname : Path.IsPart name) : p.NulFree := by
  by_cases hp : p.parts = []
  · obtain ⟨root, parts⟩ := p
    subst hp
    cases root <;> (unfold Path.NulFree; decide)
  · intro hm
    refine h ?_
    rw [Path.render_div_of_ne_nil hp hname, String.toList_append]
    exact List.mem_append_left _ hm

namespace FileSystem

variable {fs : FileSystem} {last : LastName} {cwd : Location} {route : Route} {fault : Fault}

theorem ne_nullByte_of_walk {follow : Location → List String → Except Fault Target}
    (hf : ∀ loc steps fault, follow loc steps = .error fault → fault ≠ .nullByte) (steps : List String)
    (loc : Location) (h : fs.walk last follow loc steps = .error fault) : fault ≠ .nullByte := by
  induction steps generalizing loc with
  | nil =>
    simp only [walk] at h
    split at h <;> cases h
    simp
  | cons step rest ih =>
    simp only [walk] at h
    split at h
    · cases h
      simp
    split at h
    · cases h
      simp
    split at h
    · exact ih _ h
    split at h
    · exact ih _ h
    split at h
    · cases h
      simp
    split at h
    · cases h
      simp
    split at h
    · split at h <;> cases h
      simp
    · split at h
      · cases h
      · exact hf _ _ _ h
    · exact ih _ h

theorem ne_nullByte_of_walkLinks (links : Nat) (steps : List String) (loc : Location) {fault : Fault}
    (h : fs.walkLinks last links loc steps = .error fault) : fault ≠ .nullByte := by
  induction links generalizing loc steps fault with
  | zero =>
    refine ne_nullByte_of_walk (fun _ _ _ h => ?_) _ _ h
    cases h
    simp
  | succ links ih => exact ne_nullByte_of_walk (fun loc steps _ h => ih steps loc h) _ _ h

theorem probe_of_refusal (hr : route.refusal = some .nameTooLong) : fs.probe cwd route = .error .nameTooLong := by
  rw [probe, status, resolve_eq, hr]
  rfl

/-- A call is refused for a null byte only if the path has one. -/
theorem ne_nullByte_of_resolve {p : Path} (hp : p.NulFree)
    (h : fs.resolve cwd last p.route = .error fault) : fault ≠ .nullByte := by
  rw [resolve_eq] at h
  split at h
  · rename_i hr
    cases h
    rintro rfl
    have hn : '\x00' ∉ p.route.text.toList := hp
    rw [Route.refusal, if_neg hn] at hr
    split at hr
    · cases hr
    · split at hr <;> cases hr
  · exact ne_nullByte_of_walkLinks _ _ _ h

theorem ne_nullByte_of_create {p : Path} {node : Node} (hp : p.NulFree)
    (h : fs.create cwd p.route node = .error fault) : fault ≠ .nullByte := by
  simp only [create] at h
  split at h <;> cases h
  · simp
  · exact ne_nullByte_of_resolve hp ‹_›

/-- The removal of a file is refused for a null byte only if the path has one. -/
theorem ne_nullByte_of_unlink {p : Path} (hp : p.NulFree) (h : fs.unlink cwd p.route = .error fault) :
    fault ≠ .nullByte := by
  simp only [unlink] at h
  split at h <;> cases h
  · simp
  · simp
  · exact ne_nullByte_of_resolve hp ‹_›

end FileSystem

namespace Action

variable {c : Context} {m : Machine} {p : Path}

def Refused (p : Path) (e : Failure) : Prop :=
  ∃ cause : SystemError, e = .system cause ∧ (p.NulFree → cause.fault ≠ .nullByte)

theorem Refused.isSystem {e : Failure} (h : Refused p e) (hp : p.NulFree) : e.isSystem = true := by
  obtain ⟨cause, rfl, hc⟩ := h
  simpa [Failure.isSystem] using hc hp

theorem Refused.of_div {e : Failure} {name : String} (h : Refused p e) (hname : Path.IsPart name) :
    Refused (p / name) e := by
  obtain ⟨cause, rfl, hc⟩ := h
  exact ⟨cause, rfl, fun hp => hc (hp.of_div hname)⟩

def tooLong (p : Path) : Failure := .system ⟨.nameTooLong, p.render, none⟩

def sealedAway (p : Path) : Failure := .system ⟨.accessDenied, p.render, none⟩

theorem refused_tooLong (p q : Path) : Refused q (tooLong p) := ⟨_, rfl, fun _ => by simp⟩

/-- A look at a path gives an answer and leaves all as it is, unless the path is too long. -/
theorem ends_probe {β : Type} {answer : Option (Location × Node) → β} :
    Ends c m (look (fun fs cwd => (fs.probe cwd p.route).map answer) p.render)
      (fun b m' => m' = m ∧ ∃ found, m.files.probe c.cwd p.route = .ok found ∧ b = answer found)
      fun e m' => m' = m ∧ e = tooLong p ∧ m.files.probe c.cwd p.route = .error .nameTooLong := by
  refine .look (fun b hb => ?_) fun fault hf => ?_
  · cases hp : m.files.probe c.cwd p.route with
    | error fault => simp [hp, Except.map] at hb
    | ok found =>
      simp only [hp, Except.map, Except.ok.injEq] at hb
      exact ⟨rfl, found, rfl, hb.symm⟩
  · cases hp : m.files.probe c.cwd p.route with
    | ok found => simp [hp, Except.map] at hf
    | error fault' =>
      obtain rfl := FileSystem.fault_of_probe hp
      simp only [hp, Except.map, Except.error.injEq] at hf
      exact ⟨rfl, by rw [tooLong, hf], rfl⟩

theorem ends_look_tooLong {β : Type} {answer : Option (Location × Node) → β} {post : β → Machine → Prop}
    (hr : p.route.refusal = some .nameTooLong) :
    Ends c m (look (fun fs cwd => (fs.probe cwd p.route).map answer) p.render) post
      fun e m' => m' = m ∧ e = tooLong p := by
  have hp : m.files.probe c.cwd p.route = .error .nameTooLong := FileSystem.probe_of_refusal hr
  refine .look (fun found hf => ?_) fun fault hf => ?_
  · rw [hp] at hf
    cases hf
  · rw [hp] at hf
    cases hf
    exact ⟨rfl, rfl⟩

theorem ends_isDirectory :
    Ends c m (isDirectory p)
      (fun b m' => m' = m ∧ (b = true → ∃ loc, m.files.status c.cwd p.route = .ok (loc, .directory)))
      fun e m' => m' = m ∧ e = tooLong p ∧ m.files.probe c.cwd p.route = .error .nameTooLong := by
  refine ends_probe.mono ?_ fun _ _ h => h
  rintro b m' ⟨rfl, found, hp, rfl⟩
  refine ⟨rfl, fun hb => ?_⟩
  split at hb
  · exact ⟨_, FileSystem.status_of_probe hp⟩
  · cases hb

theorem ends_isFile :
    Ends c m (isFile p)
      (fun b m' => m' = m ∧ (b = true → ∃ loc node,
        m.files.status c.cwd p.route = .ok (loc, node) ∧ node.isRegular = true))
      fun e m' => m' = m ∧ e = tooLong p ∧ m.files.probe c.cwd p.route = .error .nameTooLong := by
  refine ends_probe.mono ?_ fun _ _ h => h
  rintro b m' ⟨rfl, found, hp, rfl⟩
  refine ⟨rfl, fun hb => ?_⟩
  split at hb
  · exact ⟨_, _, FileSystem.status_of_probe hp, hb⟩
  · cases hb

theorem ends_create (node : Node) :
    Ends c m (change (·.create · p.route node) p.render)
      (fun _ m' => m.files.create c.cwd p.route node = .ok m'.files) fun e _ => Refused p e :=
  .change (fun _ h => h) fun _ hf => ⟨_, rfl, fun hp => FileSystem.ne_nullByte_of_create hp hf⟩

theorem ends_makeDirectory :
    Ends c m (makeDirectory p) (fun _ _ => True) fun e _ => Refused p e :=
  (ends_create .directory).mono (fun _ _ _ => trivial) fun _ _ h => h

theorem ends_writeFile (bytes : Bytes) :
    Ends c m (writeFile p bytes) (fun _ _ => True) fun e _ => Refused p e := by
  refine .change (fun _ _ => trivial) fun fault hf => ⟨_, rfl, fun hp => ?_⟩
  simp only [FileSystem.write] at hf
  split at hf <;> cases hf
  · simp
  · simp
  · exact FileSystem.ne_nullByte_of_resolve hp ‹_›

theorem ends_ensureDirectory :
    Ends c m (ensureDirectory p) (fun _ _ => True) fun e _ => Refused p e := by
  refine .tryCatch ends_makeDirectory fun e m' he => ?_
  obtain ⟨cause, rfl, hc⟩ := he
  simp only
  split
  · exact .throw ⟨cause, rfl, hc⟩
  · refine (ends_isDirectory.mono (fun _ _ h => h) ?_).bind fun found m'' _ => ?_
    · rintro e _ ⟨_, rfl, _⟩
      exact refused_tooLong p p
    · cases found
      · exact .throw ⟨cause, rfl, hc⟩
      · exact .pure trivial

theorem ends_ensureDirectories (root : Path.Root) (parts : List Path.Part) (m : Machine) :
    Ends c m (ensureDirectories root parts) (fun _ _ => True)
      fun e _ => Refused ⟨root, parts.reverse⟩ e := by
  induction parts generalizing m with
  | nil => exact ends_ensureDirectory
  | cons part above ih =>
    refine .tryCatch ends_makeDirectory fun e m' he => ?_
    obtain ⟨cause, rfl, hc⟩ := he
    have hlost : Refused ⟨root, (part :: above).reverse⟩ (.system cause) := ⟨cause, rfl, hc⟩
    simp only
    split
    · exact .throw hlost
    split
    · refine ((ih m').mono (fun _ _ h => h) fun e _ he => ?_).bind fun _ _ _ => ends_ensureDirectory
      have hdiv := he.of_div part.isPart
      rwa [Path.div_of_isPart _ part.isPart, ← List.reverse_cons] at hdiv
    · refine (ends_isDirectory.mono (fun _ _ h => h) ?_).bind fun found m'' _ => ?_
      · rintro e _ ⟨_, rfl, _⟩
        exact refused_tooLong _ _
      · cases found
        · exact .throw hlost
        · exact .pure trivial

theorem ends_ensurePath : Ends c m (ensurePath p) (fun _ _ => True) fun e _ => Refused p e := by
  unfold ensurePath
  refine (ends_ensureDirectories p.root p.parts.reverse m).mono (fun _ _ h => h) fun e _ he => ?_
  rwa [List.reverse_reverse] at he

end Action

end SbtWorkspace
