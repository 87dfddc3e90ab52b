import SbtWorkspace.Proofs.Action

/-! Two runs of one operation side by side. The machines they start from may differ in all but what the
operation depends on, so both runs come to the same result, and their file systems are related at the end. There is
a rule for each way to put operations together. Main statements: `Paired.bind`, `Paired.tryCatch` and
`Paired.change`, and `result_bind` for operations that only look. -/

namespace SbtWorkspace.Action

variable {α β : Type} {R : FileSystem → FileSystem → Prop} {c : Context} {b a : FileSystem}

/-- From two file systems an operation comes to the same result, and to related file systems. -/
def Paired (R : FileSystem → FileSystem → Prop) (c : Context) (b a : FileSystem) (x : Action α) : Prop :=
  ∀ m m' : Machine, m.files = b → m'.files = a →
    (x.run c m').1 = (x.run c m).1 ∧ R (x.run c m).2.files (x.run c m').2.files

def Still (b a : FileSystem) (b' a' : FileSystem) : Prop := b' = b ∧ a' = a

/-- An operation that has one outcome in each file system, with the same result. -/
theorem Paired.of_run {x : Action α} {r : Except Failure α} {b' a' : FileSystem}
    (hb : ∀ m : Machine, m.files = b → ∃ m', x.run c m = (r, m') ∧ m'.files = b')
    (ha : ∀ m : Machine, m.files = a → ∃ m', x.run c m = (r, m') ∧ m'.files = a') (hR : R b' a') :
    Paired R c b a x := by
  intro m m' hm hm'
  obtain ⟨n, hn, rfl⟩ := hb m hm
  obtain ⟨n', hn', rfl⟩ := ha m' hm'
  rw [hn, hn']
  exact ⟨rfl, hR⟩

theorem Paired.pure (r : α) (hR : R b a) : Paired R c b a (pure r) :=
  .of_run (fun m hm => ⟨m, rfl, hm⟩) (fun m hm => ⟨m, rfl, hm⟩) hR

theorem Paired.throw (e : Failure) (hR : R b a) : Paired R c b a (throw e : Action α) :=
  .of_run (fun m hm => ⟨m, rfl, hm⟩) (fun m hm => ⟨m, rfl, hm⟩) hR

theorem Paired.report (e : Event) (hR : R b a) : Paired R c b a (report e) :=
  .of_run (fun m hm => ⟨{ m with events := m.events ++ [e] }, rfl, hm⟩)
    (fun m hm => ⟨{ m with events := m.events ++ [e] }, rfl, hm⟩) hR

theorem Paired.ofExcept {ε : Type} (failure : ε → Failure) (r : Except ε α) (hR : R b a) :
    Paired R c b a (ofExcept failure r) := by
  cases r with
  | error e => exact .throw _ hR
  | ok r => exact .pure r hR

/-- What an operation finds is the same for both runs. -/
theorem Paired.context_bind {f : Context → Action β} (hf : Paired R c b a (f c)) :
    Paired R c b a (context >>= f) := hf

theorem Paired.known (find : Environment → Option α) (hR : R b a) : Paired R c b a (known find) := by
  refine .context_bind ?_
  cases find c.env with
  | none => exact .throw _ hR
  | some r => exact .pure r hR

theorem Paired.look {call : FileSystem → Location → Except Fault α} {path : String}
    (h : call a c.cwd = call b c.cwd) (hR : R b a) : Paired R c b a (look call path) :=
  .of_run (fun m hm => ⟨m, by rw [run_look, hm], hm⟩) (fun m hm => ⟨m, by rw [run_look, hm, h], hm⟩) hR

/-- Two calls are refused for the same reason, or leave related file systems. -/
inductive Agree (R : FileSystem → FileSystem → Prop) :
    Except Fault FileSystem → Except Fault FileSystem → Prop
  | refused (fault : Fault) : Agree R (.error fault) (.error fault)
  | changed {b' a' : FileSystem} : R b' a' → Agree R (.ok b') (.ok a')

theorem Paired.change {call : FileSystem → Location → Except Fault FileSystem} {path : String}
    (h : Agree R (call b c.cwd) (call a c.cwd)) (hR : R b a) : Paired R c b a (change call path) := by
  generalize hb : call b c.cwd = r at h
  generalize ha : call a c.cwd = r' at h
  cases h with
  | refused fault =>
    have hrun (fs : FileSystem) (hfs : call fs c.cwd = .error fault) (m : Machine) (hm : m.files = fs) :
        ∃ m', (Action.change call path).run c m = (.error (.system ⟨fault, path, none⟩), m') ∧
          m'.files = fs := ⟨m, by rw [run_change, hm, hfs], hm⟩
    exact .of_run (hrun b hb) (hrun a ha) hR
  | changed hR =>
    have hrun (fs fs' : FileSystem) (hfs : call fs c.cwd = .ok fs') (m : Machine) (hm : m.files = fs) :
        ∃ m', (Action.change call path).run c m = (.ok (), m') ∧ m'.files = fs' :=
      ⟨m.change fs', by rw [run_change, hm, hfs], rfl⟩
    exact .of_run (hrun b _ hb) (hrun a _ ha) hR

/-- A result that the run in the first file system comes to is known to the next operation. -/
theorem Paired.bind_of_meets {S : FileSystem → FileSystem → Prop} {x : Action α} {f : α → Action β}
    {post : α → FileSystem → Prop} (hx : Paired R c b a x) (hpost : Meets S c b x post)
    (hf : ∀ r b' a', R b' a' → post r b' → Paired R c b' a' (f r)) : Paired R c b a (x >>= f) := by
  intro m m' hm hm'
  obtain ⟨hr, hR⟩ := hx m m' hm hm'
  have hp := (hpost m hm).2.2
  rw [run_bind, run_bind]
  rcases hb : x.run c m with ⟨_ | r, n⟩ <;> rcases ha : x.run c m' with ⟨_ | r', n'⟩ <;>
    rw [hb, ha] at hr hR <;> cases hr
  · exact ⟨rfl, hR⟩
  · rw [hb] at hp
    exact hf _ _ _ hR (hp _ rfl) n n' rfl rfl

theorem Paired.bind {x : Action α} {f : α → Action β} (hx : Paired R c b a x)
    (hf : ∀ r b' a', R b' a' → Paired R c b' a' (f r)) : Paired R c b a (x >>= f) := by
  have hany : Meets (fun _ _ => True) c b x fun _ _ => True :=
    fun _ _ => ⟨trivial, fun _ _ => .inr trivial, fun _ _ => trivial⟩
  exact hx.bind_of_meets hany fun r b' a' hR _ => hf r b' a' hR

theorem Paired.tryCatch {x : Action α} {handle : Failure → Action α} (hx : Paired R c b a x)
    (hh : ∀ e b' a', R b' a' → Paired R c b' a' (handle e)) : Paired R c b a (tryCatch x handle) := by
  intro m m' hm hm'
  obtain ⟨hr, hR⟩ := hx m m' hm hm'
  rw [run_tryCatch, run_tryCatch]
  rcases hb : x.run c m with ⟨_ | r, n⟩ <;> rcases ha : x.run c m' with ⟨_ | r', n'⟩ <;>
    rw [hb, ha] at hr hR <;> cases hr
  · exact hh _ _ _ hR n n' rfl rfl
  · exact ⟨rfl, hR⟩

theorem Paired.discard {x : Action α} (hx : Paired R c b a x) : Paired R c b a (discard x) :=
  .bind hx fun _ _ _ hR => .pure _ hR

/-- Where nothing is changed, the next operation starts in the same file systems and knows the result. -/
theorem Paired.still_bind {x : Action α} {f : α → Action β} (hx : Paired (Still b a) c b a x) (hR : R b a)
    (hf : ∀ (r : α) (m m' : Machine), m.files = b → x.run c m = (.ok r, m') → Paired R c b a (f r)) :
    Paired R c b a (x >>= f) := by
  intro m m' hm hm'
  obtain ⟨hr, hb, ha⟩ := hx m m' hm hm'
  rw [run_bind, run_bind]
  rcases hbr : x.run c m with ⟨_ | r, n⟩ <;> rcases har : x.run c m' with ⟨_ | r', n'⟩ <;>
    rw [hbr, har] at hr <;> rw [hbr] at hb <;> rw [har] at ha <;> cases hr
  · exact ⟨rfl, by rwa [hb, ha]⟩
  · exact hf _ m n hm hbr n n' hb ha

/-- A look whose answer is known to the next operation. -/
theorem Paired.look_bind {call : FileSystem → Location → Except Fault α} {path : String} {f : α → Action β}
    (h : call a c.cwd = call b c.cwd) (hR : R b a)
    (hf : ∀ r, call b c.cwd = .ok r → Paired R c b a (f r)) : Paired R c b a (Action.look call path >>= f) := by
  intro m m' hm hm'
  rw [run_bind, run_bind, run_look, run_look, hm, hm', h]
  cases hc : call b c.cwd with
  | error fault => exact ⟨rfl, by rwa [hm, hm']⟩
  | ok r => exact hf r hc m m' hm hm'

/-! ## Operations that only look -/

section

variable {fs : FileSystem} {x : Action α}

/-- What only looks comes to its result from every machine with the file system, and leaves that. -/
theorem Paired.run_eq (hx : Paired (Still fs fs) c fs fs x) {m : Machine} (hm : m.files = fs) :
    ∃ m', x.run c m = (x.result c fs, m') ∧ m'.files = fs := by
  obtain ⟨hr, -, hfiles⟩ := hx { files := fs } m rfl hm
  exact ⟨(x.run c m).2, Prod.ext hr rfl, hfiles⟩

/-- Operations that only look come to the results of the one and then of the other. -/
theorem result_bind {f : α → Action β} (hx : Paired (Still fs fs) c fs fs x)
    (hf : ∀ r, Paired (Still fs fs) c fs fs (f r)) :
    (x >>= f).result c fs = (x.result c fs >>= fun r => (f r).result c fs) := by
  obtain ⟨m, hrun, hm⟩ := hx.run_eq (m := { files := fs }) rfl
  rw [result, run_bind, hrun]
  cases x.result c fs with
  | error e => rfl
  | ok r =>
    obtain ⟨m', hrun, -⟩ := (hf r).run_eq hm
    show ((f r).run c m).1 = (f r).result c fs
    rw [hrun]

end

end SbtWorkspace.Action
