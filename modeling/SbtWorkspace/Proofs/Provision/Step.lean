import Mathlib.Logic.Relation
import SbtWorkspace.Proofs.Action
import SbtWorkspace.Proofs.MetaBuild.Stability

/-! Provisioning as steps: a directory of a meta-build is made where nothing stood, a generated file is
made where nothing stood, or the content of a file is replaced. Main statements: what one step keeps
(`Step.grown`, `Step.lasts`) and from it, by induction, what a run of steps keeps. -/

namespace SbtWorkspace.Provision
open FileSystem MetaBuild

/-- Whether a file system holds no link. -/
def LinkFree (fs : FileSystem) : Prop := ∀ loc target, fs.lookup loc ≠ some (.link target)

def isLink : Node → Bool
  | .link _ => true
  | .directory | .file .. | .sealed | .device _ => false

theorem isLink_iff {node : Node} : isLink node = true ↔ ∃ target, node = .link target := by
  cases node <;> simp [isLink]

theorem linkFree_iff {fs : FileSystem} : LinkFree fs ↔ ∀ e ∈ fs.entries, (fs.lookup e.1).all (!isLink ·) := by
  constructor
  · intro h e _
    cases hl : fs.lookup e.1 with
    | none => rfl
    | some node =>
      have hn : isLink node ≠ true := by
        intro hn
        obtain ⟨target, rfl⟩ := isLink_iff.1 hn
        exact h e.1 target hl
      simp [hn]
  · intro h loc target hl
    cases loc with
    | nil => cases hl
    | cons name parent =>
      obtain ⟨e, he, hk⟩ := isSome_lookup_iff.1 (show (fs.lookup (name :: parent)).isSome by simp [hl])
      have hall := h e he
      rw [hk, hl] at hall
      cases hall

instance : DecidablePred LinkFree := fun _ => decidable_of_iff _ linkFree_iff.symm

theorem LinkFree.linksLead {fs : FileSystem} (h : LinkFree fs) : LinksLead fs :=
  fun name parent target hl => absurd hl (h (name :: parent) target)

/-- One step of provisioning, where `writes` says which contents go under which names. Only a link under
such a name leads the content to a file of another name. -/
inductive Step (writes : String → Bytes → Prop) (b : FileSystem) : FileSystem → Prop
  | directory {loc : Location} : b.lookup loc = some .directory → b.lookup ("project" :: loc) = none →
    Step writes b (b.place loc "project" .directory)
  | file {loc : Location} {name : String} {bytes : Bytes} : writes name bytes →
    b.lookup loc = some .directory → b.lookup (name :: loc) = none →
      Step writes b (b.place loc name (.file bytes false))
  | content {loc : Location} {name written : String} {bytes old : Bytes} {executable : Bool} :
    writes written bytes → name = written ∨ ¬ LinkFree b →
      b.lookup (name :: loc) = some (.file old executable) →
      Step writes b (b.place loc name (.file bytes executable))

abbrev Steps (writes : String → Bytes → Prop) : FileSystem → FileSystem → Prop :=
  Relation.ReflTransGen (Step writes)

variable {writes : String → Bytes → Prop} {generated : List String} {b a : FileSystem}

structure WritesOnly (writes : String → Bytes → Prop) (generated : List String) : Prop where
  generated_subset : generated ⊆ generatedNames
  mem : ∀ name bytes, writes name bytes → name ∈ generated

theorem WritesOnly.isEntryName (hw : WritesOnly writes generated) {name : String} {bytes : Bytes}
    (h : writes name bytes) : IsEntryName name :=
  (of_not_kept hw.generated_subset (by simp [isKept, hw.mem name bytes h])).1

/-! ## What one step keeps -/

/-- A step puts a file or a directory somewhere, and changes nothing else. -/
theorem Step.lookup (hw : WritesOnly writes generated) (h : Step writes b a) :
    ∃ name parent, b.lookup parent = some .directory ∧
      ((name = "project" ∧ b.lookup (name :: parent) = none ∧
          ∀ q, a.lookup q = if q = name :: parent then some .directory else b.lookup q) ∨
        ∃ written bytes executable, writes written bytes ∧
          (name = written ∧ b.lookup (name :: parent) = none ∨
            (name = written ∨ ¬ LinkFree b) ∧
              ∃ old, b.lookup (name :: parent) = some (.file old executable)) ∧
          ∀ q, a.lookup q =
            if q = name :: parent then some (.file bytes executable) else b.lookup q) := by
  cases h with
  | @directory loc hp hn =>
    exact ⟨"project", loc, hp, .inl ⟨rfl, hn, lookup_place (by decide) hp (by simp [hn])⟩⟩
  | @file loc name bytes hwr hp hn =>
    exact ⟨name, loc, hp, .inr ⟨name, bytes, false, hwr, .inl ⟨rfl, hn⟩,
      lookup_place (hw.isEntryName hwr) hp (by simp [hn])⟩⟩
  | @content loc name written bytes old executable hwr hl hn =>
    have hs : (b.lookup (name :: loc)).isSome := by simp [hn]
    exact ⟨name, loc, lookup_parent hs, .inr ⟨written, bytes, executable, hwr, .inr ⟨hl, old, hn⟩,
      lookup_place (isEntryName_of_lookup hs) (lookup_parent hs) (by simp [hn])⟩⟩

theorem Step.grown (hw : WritesOnly writes generated) (h : Step writes b a) : Grown generated b a := by
  cases h with
  | directory hp hn =>
    refine .place (by decide) hp (by simp [hn]) ?_ (.inr (by simp [isKept]))
    rw [hn]
    exact .made rfl fun hg => absurd (hw.generated_subset hg) (by decide)
  | file hwr hp hn =>
    have hg := hw.mem _ _ hwr
    refine .place (hw.isEntryName hwr) hp (by simp [hn]) ?_ (.inr (by simp [isKept, hg]))
    rw [hn]
    exact .rewritten hg ⟨by simp, by simp⟩ ⟨by simp, by simp⟩
  | @content loc name _ _ _ _ _ _ hn =>
    have hs : (b.lookup (name :: loc)).isSome := by simp [hn]
    refine .place (isEntryName_of_lookup hs) (lookup_parent hs) (by simp [hn]) ?_ (.inl hs)
    rw [hn]
    exact .same rfl

def Lasts (b a : FileSystem) : Prop :=
  ∀ loc, (b.lookup loc).isSome → SameShape (b.lookup loc) (a.lookup loc)

theorem Step.lasts (hw : WritesOnly writes generated) (h : Step writes b a) : Lasts b a := by
  intro loc hs
  obtain ⟨name, parent, _, ⟨_, hn, hq⟩ | ⟨written, bytes, executable, _, hn, hq⟩⟩ := h.lookup hw
  · rw [hq]
    split
    · rename_i he
      rw [he, hn] at hs
      cases hs
    · exact rfl
  · rw [hq]
    split
    · rename_i he
      subst he
      obtain ⟨_, hn⟩ | ⟨_, old, hn⟩ := hn
      · rw [hn] at hs
        cases hs
      · rw [hn]
        rfl
    · exact rfl

/-! ## What a run keeps -/

theorem grown_of_steps (hw : WritesOnly writes generated) (h : Steps writes b a) :
    Grown generated b a := by
  induction h with
  | refl => exact .refl generated b
  | tail _ hs ih => exact ih.trans (hs.grown hw)

theorem lasts_of_steps (hw : WritesOnly writes generated) (h : Steps writes b a) : Lasts b a := by
  induction h with
  | refl => exact fun _ _ => rfl
  | tail _ hs ih =>
    intro loc hl
    have hm := ih loc hl
    refine hm.trans (hs.lasts hw loc ?_)
    rw [← Option.isSome_map (f := Node.shape), hm, Option.isSome_map]
    exact hl

/-- After a run every link leads to something that is as before. -/
theorem regrown_of_steps (hw : WritesOnly writes generated) (hl : LinksLead b) (h : Steps writes b a) :
    Regrown generated b a where
  generated_subset := hw.generated_subset
  grown := grown_of_steps hw h
  settled := by
    intro name parent target hlink
    obtain ⟨goal, node, hwalk⟩ := hl name parent target hlink
    obtain ⟨_, _, _, hn⟩ := exists_way_of_link hlink hwalk
    exact ⟨goal, node, hwalk, lasts_of_steps hw h goal (by simp [hn])⟩

theorem linksLead_of_steps (hw : WritesOnly writes generated) (hl : LinksLead b)
    (h : Steps writes b a) : LinksLead a :=
  (regrown_of_steps hw hl h).settled.linksLead_after (grown_of_steps hw h)

/-- A run of steps from a file system whose links lead to something. -/
def Provisions (writes : String → Bytes → Prop) (b a : FileSystem) : Prop :=
  LinksLead b → Steps writes b a ∧ LinksLead a

instance : Action.Accumulates (Provisions writes) where
  refl _ hl := ⟨.refl, hl⟩
  trans h₁ h₂ hl := by
    obtain ⟨hs, hl⟩ := h₁ hl
    exact ⟨hs.trans (h₂ hl).1, (h₂ hl).2⟩

theorem Provisions.of_step (hw : WritesOnly writes generated) (h : Step writes b a) :
    Provisions writes b a :=
  fun hl => ⟨.single h, linksLead_of_steps hw hl (.single h)⟩

end SbtWorkspace.Provision
