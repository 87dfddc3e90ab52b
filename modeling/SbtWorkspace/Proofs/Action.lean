import SbtWorkspace.Action
import SbtWorkspace.Proofs.FileSystem.Look

/-! What an operation does to a file system, on every exit. A relation holds between the file system that
an operation finds and each one that it goes through, whether it ends with a result or with a failure;
and where it ends with a result, something holds of that. Main statements: one rule for each way to
put operations together (`Meets.bind`, `Meets.tryCatch` and their like). -/

namespace SbtWorkspace

/-- The machine with a changed file system. -/
def Machine.change (m : Machine) (fs : FileSystem) : Machine :=
  { m with files := fs, past := m.files :: m.past }

namespace Action

variable {α β : Type} {c : Context} {m : Machine} {fs : FileSystem}

theorem run_look (call : FileSystem → Location → Except Fault α) (path : String) (c : Context)
    (m : Machine) :
    (look call path).run c m =
      (match call m.files c.cwd with
        | .ok a => .ok a
        | .error fault => .error (.system ⟨fault, path, none⟩), m) := by
  show (ofExcept _ (call m.files c.cwd)).run c m = _
  cases call m.files c.cwd <;> rfl

theorem run_change (call : FileSystem → Location → Except Fault FileSystem) (path : String)
    (c : Context) (m : Machine) :
    (change call path).run c m =
      match call m.files c.cwd with
      | .ok fs => (.ok (), m.change fs)
      | .error fault => (.error (.system ⟨fault, path, none⟩), m) := by
  rw [change, run_bind, run_look]
  cases call m.files c.cwd <;> rfl

theorem run_ofExcept {ε : Type} (failure : ε → Failure) (r : Except ε α) (c : Context) (m : Machine) :
    (ofExcept failure r).run c m =
      (match r with
        | .ok a => .ok a
        | .error e => .error (failure e), m) := by
  cases r <;> rfl

/-! ## Runs that succeed -/

theorem exists_of_run_bind {m' : Machine} {x : Action α} {f : α → Action β} {b : β}
    (h : (x >>= f).run c m = (.ok b, m')) :
    ∃ a m₁, x.run c m = (.ok a, m₁) ∧ (f a).run c m₁ = (.ok b, m') := by
  rw [run_bind] at h
  split at h
  · exact ⟨_, _, ‹_›, h⟩
  · cases h

theorem of_run_look {m' : Machine} {call : FileSystem → Location → Except Fault α} {path : String}
    {a : α} (h : (look call path).run c m = (.ok a, m')) : call m.files c.cwd = .ok a ∧ m' = m := by
  rw [run_look] at h
  cases hc : call m.files c.cwd with
  | error fault => simp [hc] at h
  | ok found =>
    simp only [hc, Prod.mk.injEq, Except.ok.injEq] at h
    exact ⟨by rw [h.1], h.2.symm⟩

theorem of_run_known {m' : Machine} {find : Environment → Option α} {a : α}
    (h : (known find).run c m = (.ok a, m')) : find c.env = some a ∧ m' = m := by
  obtain ⟨_, _, hc, h⟩ := exists_of_run_bind h
  cases hc
  cases hf : find c.env with
  | none => simp [hf] at h
  | some found =>
    simp only [hf, run_pure, Prod.mk.injEq, Except.ok.injEq] at h
    exact ⟨by rw [h.1], h.2.symm⟩

theorem run_eq_of_fst {x : Action α} {r : Except Failure α} (h : (x.run c m).1 = r) :
    x.run c m = (r, (x.run c m).2) :=
  Prod.ext h rfl

/-- What gave the result is what was tried, where its handler gives none. -/
theorem of_run_tryCatch {m' : Machine} {x : Action α} {handle : Failure → Action α} {a : α}
    (h : (tryCatch x handle).run c m = (.ok a, m'))
    (hh : ∀ e m₁, (handle e).run c m₁ ≠ (.ok a, m')) : x.run c m = (.ok a, m') := by
  rw [run_tryCatch] at h
  split at h
  · rename_i hx
    rw [hx]
    exact h
  · exact absurd h (hh _ _)

theorem of_run_change {m' : Machine} {call : FileSystem → Location → Except Fault FileSystem} {text : String}
    (h : (change call text).run c m = (.ok (), m')) : call m.files c.cwd = .ok m'.files := by
  rw [run_change] at h
  split at h
  · rename_i fs hc
    cases h
    exact hc
  · cases h

/-! ## What holds on every exit -/

/-- A relation between a file system and a later one: no change is one, and so are two changes. -/
class Accumulates (R : FileSystem → FileSystem → Prop) : Prop where
  refl : ∀ fs, R fs fs
  trans : ∀ {b m a}, R b m → R m a → R b a

/-- From a file system an operation goes through related ones only, and leaves one of which `post` holds if
it gives a result. -/
def Meets (R : FileSystem → FileSystem → Prop) (c : Context) (fs : FileSystem) (x : Action α)
    (post : α → FileSystem → Prop) : Prop :=
  ∀ m : Machine, m.files = fs →
    R fs (x.run c m).2.files ∧
    (∀ other ∈ (x.run c m).2.past, other ∈ m.past ∨ R fs other) ∧
    ∀ a, (x.run c m).1 = .ok a → post a (x.run c m).2.files

section

variable {R : FileSystem → FileSystem → Prop} {post : α → FileSystem → Prop}
  {post' : β → FileSystem → Prop}

theorem Meets.mono {R' : FileSystem → FileSystem → Prop} {x : Action α} {weaker : α → FileSystem → Prop}
    (h : Meets R c fs x post) (hR : ∀ other, R fs other → R' fs other)
    (hp : ∀ a other, post a other → weaker a other) : Meets R' c fs x weaker := by
  intro m hm
  obtain ⟨h₁, h₂, h₃⟩ := h m hm
  exact ⟨hR _ h₁, fun other ho => (h₂ other ho).imp id (hR other), fun a ha => hp a _ (h₃ a ha)⟩

/-- The file system that is left is related to the one that was found. -/
theorem Meets.related {x : Action α} (h : Meets R c fs x post) :
    Meets R c fs x fun a other => R fs other ∧ post a other := by
  intro m hm
  obtain ⟨h₁, h₂, h₃⟩ := h m hm
  exact ⟨h₁, h₂, fun a ha => ⟨h₁, h₃ a ha⟩⟩

theorem Meets.of_run_eq [hR : Accumulates R] {x : Action α} {r : Except Failure α}
    (h : ∀ m : Machine, m.files = fs → ∃ m', x.run c m = (r, m') ∧ m'.files = fs ∧ m'.past = m.past)
    (hp : ∀ a, r = .ok a → post a fs) : Meets R c fs x post := by
  intro m hm
  obtain ⟨m', hx, rfl, hpast⟩ := h m hm
  rw [hx]
  exact ⟨hR.refl m'.files, fun other ho => .inl (hpast ▸ ho), fun a ha => hp a ha⟩

theorem Meets.pure [Accumulates R] {a : α} (h : post a fs) : Meets R c fs (pure a) post :=
  .of_run_eq (fun m hm => ⟨m, rfl, hm, rfl⟩) fun b hb => by
    cases hb
    exact h

theorem Meets.throw [Accumulates R] (e : Failure) : Meets R c fs (throw e : Action α) post :=
  .of_run_eq (fun m hm => ⟨m, rfl, hm, rfl⟩) fun _ hb => by cases hb

theorem Meets.bind [hR : Accumulates R] {x : Action α} {f : α → Action β} (hx : Meets R c fs x post)
    (hf : ∀ a other, R fs other → post a other → Meets R c other (f a) post') :
    Meets R c fs (x >>= f) post' := by
  intro m hm
  obtain ⟨h₁, h₂, h₃⟩ := hx m hm
  rw [run_bind]
  rcases hr : x.run c m with ⟨_ | a, m'⟩
  · rw [hr] at h₁ h₂
    exact ⟨h₁, h₂, fun _ ha => by cases ha⟩
  · rw [hr] at h₁ h₂ h₃
    obtain ⟨g₁, g₂, g₃⟩ := hf a m'.files h₁ (h₃ a rfl) m' rfl
    refine ⟨hR.trans h₁ g₁, fun other ho => ?_, g₃⟩
    obtain ho | ho := g₂ other ho
    · exact h₂ other ho
    · exact .inr (hR.trans h₁ ho)

theorem Meets.tryCatch [hR : Accumulates R] {x : Action α} {handle : Failure → Action α}
    (hx : Meets R c fs x post) (hh : ∀ e other, R fs other → Meets R c other (handle e) post) :
    Meets R c fs (tryCatch x handle) post := by
  intro m hm
  obtain ⟨h₁, h₂, h₃⟩ := hx m hm
  rw [run_tryCatch]
  rcases hr : x.run c m with ⟨e | a, m'⟩
  · rw [hr] at h₁ h₂
    obtain ⟨g₁, g₂, g₃⟩ := hh e m'.files h₁ m' rfl
    refine ⟨hR.trans h₁ g₁, fun other ho => ?_, g₃⟩
    obtain ho | ho := g₂ other ho
    · exact h₂ other ho
    · exact .inr (hR.trans h₁ ho)
  · rw [hr] at h₁ h₂ h₃
    exact ⟨h₁, h₂, h₃⟩

theorem Meets.ofExcept [Accumulates R] {ε : Type} {failure : ε → Failure} {r : Except ε α}
    (h : ∀ a, r = .ok a → post a fs) : Meets R c fs (ofExcept failure r) post := by
  cases r with
  | error e => exact .throw _
  | ok a => exact .pure (h a rfl)

theorem Meets.report [Accumulates R] {post : Unit → FileSystem → Prop} (e : Event) (h : post () fs) :
    Meets R c fs (report e) post :=
  .of_run_eq (fun m hm => ⟨{ m with events := m.events ++ [e] }, rfl, hm, rfl⟩) fun _ _ => h

theorem Meets.report_pure [Accumulates R] {e : Event} {a : α} (h : post a fs) :
    Meets R c fs (do Action.report e; return a) post := by
  have hr : Meets R c fs (Action.report e) fun _ other => other = fs := .report e rfl
  refine hr.bind ?_
  rintro _ fs _ rfl
  exact .pure h

theorem Meets.context [Accumulates R] {post : Context → FileSystem → Prop} (h : post c fs) :
    Meets R c fs context post :=
  .of_run_eq (fun m hm => ⟨m, rfl, hm, rfl⟩) fun a ha => by
    cases ha
    exact h

theorem Meets.files [Accumulates R] {post : FileSystem → FileSystem → Prop} (h : post fs fs) :
    Meets R c fs files post :=
  .of_run_eq (r := .ok fs) (fun m hm => ⟨m, hm ▸ rfl, hm, rfl⟩) fun a ha => by
    cases ha
    exact h

theorem Meets.look [Accumulates R] {call : FileSystem → Location → Except Fault α} {path : String}
    (h : ∀ a, call fs c.cwd = .ok a → post a fs) : Meets R c fs (look call path) post := by
  refine .of_run_eq (fun m hm => ⟨m, by rw [run_look, hm], hm, rfl⟩) fun a ha => h a ?_
  cases hc : call fs c.cwd with
  | error fault => simp [hc] at ha
  | ok b => simpa [hc] using ha

theorem Meets.change [hR : Accumulates R] {call : FileSystem → Location → Except Fault FileSystem}
    {path : String} {post : Unit → FileSystem → Prop}
    (h : ∀ other, call fs c.cwd = .ok other → R fs other ∧ post () other) :
    Meets R c fs (change call path) post := by
  rintro m rfl
  rw [run_change]
  cases hc : call m.files c.cwd with
  | error fault => exact ⟨hR.refl _, fun _ ho => .inl ho, fun _ ha => by cases ha⟩
  | ok other =>
    obtain ⟨h₁, h₂⟩ := h other hc
    refine ⟨h₁, fun fs hfs => ?_, fun _ _ => h₂⟩
    obtain rfl | hfs := List.mem_cons.1 hfs
    · exact .inr (hR.refl _)
    · exact .inl hfs

theorem Meets.known [Accumulates R] {find : Environment → Option α} (h : ∀ a, post a fs) :
    Meets R c fs (known find) post := by
  have hc : Meets R c fs Action.context fun _ other => other = fs := .context rfl
  refine hc.bind ?_
  rintro c' other _ rfl
  cases find c'.env with
  | some a => exact .pure (h a)
  | none => exact .throw _

theorem Meets.discard [Accumulates R] {x : Action α} {post : Unit → FileSystem → Prop}
    (h : Meets R c fs x fun _ => post ()) : Meets R c fs (discard x) post :=
  .bind h fun _ _ _ hp => .pure hp

end

/-! ## Results without a change -/

def Answers (c : Context) (fs : FileSystem) (x : Action α) (a : α) : Prop :=
  ∀ m : Machine, m.files = fs → ∃ m', x.run c m = (.ok a, m') ∧ m'.files = fs

theorem Answers.pure (a : α) : Answers c fs (pure a) a := fun m hm => ⟨m, rfl, hm⟩

theorem Answers.bind {x : Action α} {f : α → Action β} {a : α} {b : β} (hx : Answers c fs x a)
    (hf : Answers c fs (f a) b) : Answers c fs (x >>= f) b := by
  intro m hm
  obtain ⟨m₁, h₁, hm₁⟩ := hx m hm
  obtain ⟨m₂, h₂, hm₂⟩ := hf m₁ hm₁
  exact ⟨m₂, by rw [run_bind, h₁]; exact h₂, hm₂⟩

theorem Answers.look {call : FileSystem → Location → Except Fault α} {path : String} {a : α}
    (h : call fs c.cwd = .ok a) : Answers c fs (look call path) a :=
  fun m hm => ⟨m, by simp only [run_look, hm, h], hm⟩

theorem Answers.report_pure (e : Event) (a : α) : Answers c fs (do report e; return a) a :=
  fun m hm => ⟨{ m with events := m.events ++ [e] }, rfl, hm⟩

/-! ## Operations that see no difference -/

variable {R : FileSystem → FileSystem → Prop} {b a : FileSystem} {p : Path}

/-- The result of an operation on a file system. -/
def result (x : Action α) (c : Context) (fs : FileSystem) : Except Failure α :=
  (x.run c { files := fs }).1

/-- An operation does the same in two file systems: it gives a result, after reports, and changes nothing
else. -/
def Alike (c : Context) (b a : FileSystem) (x : Action α) : Prop :=
  ∀ m : Machine, ∃ r es,
    x.run c { m with files := b } = (r, { m with files := b, events := m.events ++ es }) ∧
    x.run c { m with files := a } = (r, { m with files := a, events := m.events ++ es })

theorem Alike.of_run_eq {x : Action α} {r : Except Failure α}
    (hb : ∀ m : Machine, x.run c { m with files := b } = (r, { m with files := b }))
    (ha : ∀ m : Machine, x.run c { m with files := a } = (r, { m with files := a })) :
    Alike c b a x := by
  intro m
  refine ⟨r, [], ?_, ?_⟩
  · rw [hb, List.append_nil]
  · rw [ha, List.append_nil]

theorem Alike.pure (r : α) : Alike c b a (pure r) := .of_run_eq (fun _ => rfl) fun _ => rfl

theorem Alike.throw (e : Failure) : Alike c b a (throw e : Action α) :=
  .of_run_eq (fun _ => rfl) fun _ => rfl

theorem Alike.report (e : Event) : Alike c b a (report e) := fun _ => ⟨.ok (), [e], rfl, rfl⟩

theorem Alike.ofExcept {ε : Type} (failure : ε → Failure) (r : Except ε α) :
    Alike c b a (ofExcept failure r) := by
  cases r with
  | error e => exact .throw _
  | ok r => exact .pure r

theorem Alike.look {call : FileSystem → Location → Except Fault α} {path : String}
    (h : call a c.cwd = call b c.cwd) : Alike c b a (look call path) :=
  .of_run_eq (fun m => run_look call path c _) fun m => by rw [run_look, h]

theorem Alike.bind {x : Action α} {f : α → Action β} (hx : Alike c b a x)
    (hf : ∀ r, Alike c b a (f r)) : Alike c b a (x >>= f) := by
  intro m
  obtain ⟨r, es, hb, ha⟩ := hx m
  cases r with
  | error e => exact ⟨.error e, es, by rw [run_bind, hb], by rw [run_bind, ha]⟩
  | ok r =>
    obtain ⟨s, more, hb', ha'⟩ := hf r { m with events := m.events ++ es }
    refine ⟨s, es ++ more, ?_, ?_⟩
    · rw [run_bind, hb, ← List.append_assoc]
      exact hb'
    · rw [run_bind, ha, ← List.append_assoc]
      exact ha'

theorem Alike.tryCatch {x : Action α} {handle : Failure → Action α} (hx : Alike c b a x)
    (hh : ∀ e, Alike c b a (handle e)) : Alike c b a (tryCatch x handle) := by
  intro m
  obtain ⟨r, es, hb, ha⟩ := hx m
  cases r with
  | ok r => exact ⟨.ok r, es, by rw [run_tryCatch, hb], by rw [run_tryCatch, ha]⟩
  | error e =>
    obtain ⟨s, more, hb', ha'⟩ := hh e { m with events := m.events ++ es }
    refine ⟨s, es ++ more, ?_, ?_⟩
    · rw [run_tryCatch, hb, ← List.append_assoc]
      exact hb'
    · rw [run_tryCatch, ha, ← List.append_assoc]
      exact ha'

theorem Alike.context : Alike c b a context := .of_run_eq (fun _ => rfl) fun _ => rfl

theorem Alike.known (find : Environment → Option α) : Alike c b a (known find) := by
  refine .bind .context fun c' => ?_
  cases find c'.env with
  | some r => exact .pure r
  | none => exact .throw _

/-- What does the same in one file system as in itself leaves that as it is. -/
theorem Meets.of_alike [Accumulates R] {x : Action α} (h : Alike c fs fs x) :
    Meets R c fs x fun _ _ => True := by
  rintro m rfl
  obtain ⟨r, es, hx, _⟩ := h m
  have hx : x.run c m = (r, { m with events := m.events ++ es }) := hx
  rw [hx]
  exact ⟨Accumulates.refl _, fun other ho => .inl ho, fun _ _ => trivial⟩

theorem alike_isFile (h : a.status c.cwd p.route = b.status c.cwd p.route) :
    Alike c b a (isFile p) :=
  .look (by simp only [FileSystem.isFile, FileSystem.probe, h])

theorem alike_readFile (h : a.status c.cwd p.route = b.status c.cwd p.route) :
    Alike c b a (readFile p) :=
  .look (by simp only [FileSystem.read, h])

end Action

end SbtWorkspace
