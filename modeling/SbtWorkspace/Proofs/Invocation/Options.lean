import SbtWorkspace.Invocation.Options
import SbtWorkspace.Proofs.FileSystem.Look
import SbtWorkspace.Proofs.Paired
import SbtWorkspace.Proofs.Text.Blank
import SbtWorkspace.Proofs.Text.Line
import SbtWorkspace.Proofs.Text.Utf8Stream

/-! Options that are written to a file and read back. A writer is free in what blanks stand around an option, in
how lines end and in what blank lines stand in between. Three line ends split a text, and many more blanks are
trimmed; so a blank that ends no line is kept inside of an option and dropped at its ends. Main statement:
`options_of_file`. -/

namespace SbtWorkspace.Options
open FileSystem SbtWorkspace.Action

/-! ## The format -/

/-- Whether a character is trimmed off a line. -/
def isBlank (c : Char) : Bool := Blank.covers c.toNat

/-- What can be an option: a text on one line, without a blank at either end. -/
structure IsOption (option : String) : Prop where
  ne_empty : option ≠ ""
  feed_notMem : '\n' ∉ option.toList
  return_notMem : '\r' ∉ option.toList
  isTrimmed : IsTrimmed isBlank option.toList

theorem isOption_iff {option : String} :
    IsOption option ↔ option ≠ "" ∧ '\n' ∉ option.toList ∧ '\r' ∉ option.toList ∧
      IsTrimmed isBlank option.toList :=
  ⟨fun ⟨h₁, h₂, h₃, h₄⟩ => ⟨h₁, h₂, h₃, h₄⟩, fun ⟨h₁, h₂, h₃, h₄⟩ => ⟨h₁, h₂, h₃, h₄⟩⟩

instance : DecidablePred IsOption := fun _ => decidable_of_iff _ isOption_iff.symm

def IsGap (text : List Char) : Prop := ∀ c ∈ text, isBlank c = true ∧ c ≠ '\n' ∧ c ≠ '\r'

-- over the characters of the text, as an instance for all characters is there too
instance : DecidablePred IsGap := fun text => List.decidableBAll _ text

inductive WrittenLine : List String → List Char → Prop where
  | option {before after : List Char} {option : String} :
      IsGap before → IsGap after → WrittenLine [option] (before ++ option.toList ++ after)
  | blank {gap : List Char} : IsGap gap → WrittenLine [] gap

def lineEnds : List (List Char) := [['\n'], ['\r', '\n'], ['\r']]

/-- A text of lines. The last one may lack its end. -/
inductive Written : List String → List Char → Prop where
  | last {options : List String} {line : List Char} : WrittenLine options line → Written options line
  | line {options more : List String} {line ending rest : List Char} :
      WrittenLine options line → ending ∈ lineEnds → Written more rest →
      Written (options ++ more) (line ++ ending ++ rest)

/-! ## A line of options -/

variable {options more : List String} {option : String} {line rest text : List Char}

def ofLine (line : List Char) : List String :=
  if trimWhile isBlank line = [] then [] else [String.ofList (trimWhile isBlank line)]

theorem ofText_eq_flatMap (text : List Char) : ofText text = (Line.lines '\n' '\r' text).flatMap ofLine := by
  show (((Line.lines '\n' '\r' text).map (trimWhile isBlank)).filter (· ≠ [])).map String.ofList = _
  induction Line.lines '\n' '\r' text with
  | nil => rfl
  | cons line lines ih =>
    rw [List.map_cons, List.flatMap_cons, ← ih, ofLine]
    by_cases h : trimWhile isBlank line = [] <;> simp [h]

theorem ofText_cons (h : Line.lines '\n' '\r' text = line :: Line.lines '\n' '\r' rest) :
    ofText text = ofLine line ++ ofText rest := by
  rw [ofText_eq_flatMap, h, List.flatMap_cons, ← ofText_eq_flatMap]

theorem WrittenLine.notMem (h : WrittenLine options line) (ho : ∀ o ∈ options, IsOption o) :
    '\n' ∉ line ∧ '\r' ∉ line := by
  have hgap {gap : List Char} (hg : IsGap gap) : '\n' ∉ gap ∧ '\r' ∉ gap :=
    ⟨fun hm => (hg _ hm).2.1 rfl, fun hm => (hg _ hm).2.2 rfl⟩
  cases h with
  | option hb ha =>
    have hopt := ho _ (List.mem_singleton_self _)
    simp [hgap hb, hgap ha, hopt.feed_notMem, hopt.return_notMem]
  | blank hg => exact hgap hg

theorem WrittenLine.ofLine_eq (h : WrittenLine options line) (ho : ∀ o ∈ options, IsOption o) :
    ofLine line = options := by
  cases h with
  | @option before after option hb ha =>
    have hopt := ho _ (List.mem_singleton_self option)
    have hne : option.toList ≠ [] := by simpa using hopt.ne_empty
    rw [ofLine, trimWhile_append (fun x hx => (hb x hx).1) hopt.isTrimmed hne fun x hx => (ha x hx).1]
    simp [hne]
  | blank hg =>
    rw [ofLine, trimWhile_of_all fun x hx => (hg x hx).1]
    rfl

/-! ## A text of options -/

/-- What was written is read back. A line that ends at a carriage return and an empty one that ends at a line feed
come to a single line end, which takes no option away. -/
theorem ofText_of_written (h : Written options text) (ho : ∀ o ∈ options, IsOption o) :
    ofText text = options := by
  induction h with
  | last hline =>
    obtain ⟨hl, hc⟩ := hline.notMem ho
    rw [ofText_eq_flatMap, Line.lines_of_notMem hl hc, List.flatMap_singleton, hline.ofLine_eq ho]
  | @line options more line ending rest hline hend _ ih =>
    have hfirst : ∀ o ∈ options, IsOption o := fun o hm => ho o (List.mem_append_left _ hm)
    have hrest := ih fun o hm => ho o (List.mem_append_right _ hm)
    obtain ⟨hl, hc⟩ := hline.notMem hfirst
    have hne : '\n' ≠ '\r' := by decide
    suffices ofText (line ++ ending ++ rest) = ofLine line ++ ofText rest by
      rw [this, hline.ofLine_eq hfirst, hrest]
    rw [List.append_assoc]
    simp only [lineEnds, List.mem_cons, List.not_mem_nil, or_false] at hend
    obtain rfl | rfl | rfl := hend
    · exact ofText_cons (Line.lines_append_feed hl hc hne rest)
    · exact ofText_cons (Line.lines_append_return_feed hl hc hne rest)
    by_cases hr : rest.head? = some '\n'
    · obtain ⟨after, rfl⟩ : ∃ after, rest = '\n' :: after := ⟨rest.tail, List.eq_cons_of_mem_head? hr⟩
      have hempty : ofText ('\n' :: after) = ofLine [] ++ ofText after :=
        ofText_cons (Line.lines_append_feed List.not_mem_nil List.not_mem_nil hne after)
      rw [hempty]
      exact ofText_cons (Line.lines_append_return_feed hl hc hne after)
    · exact ofText_cons (Line.lines_append_return hl hc hr)

theorem isOption_of_mem_ofText (h : option ∈ ofText text) : IsOption option := by
  rw [ofText_eq_flatMap] at h
  obtain ⟨line, hline, hoption⟩ := List.mem_flatMap.1 h
  rw [ofLine] at hoption
  split at hoption
  · cases hoption
  rename_i hne
  obtain rfl := List.mem_singleton.1 hoption
  obtain ⟨lead, trail, heq, -, -⟩ := exists_eq_trimWhile isBlank line
  obtain ⟨hl, hc⟩ := Line.notMem_of_mem_lines (by decide) hline
  have hmem {x : Char} (hx : x ∈ (String.ofList (trimWhile isBlank line)).toList) : x ∈ line := by
    rw [String.toList_ofList] at hx
    rw [heq]
    exact List.mem_append_left _ (List.mem_append_right _ hx)
  exact {
    ne_empty := fun he => hne (by simpa using he)
    feed_notMem := fun hm => hl (hmem hm)
    return_notMem := fun hm => hc (hmem hm)
    isTrimmed := by
      rw [String.toList_ofList]
      exact isTrimmed_trimWhile _ _ }

/-! ## Files of options -/

variable {c : Context} {fs b a : FileSystem} {path : Path}

/-- The options in a file depend on what a look at its path finds. -/
theorem paired_ofFile (h : a.probe c.cwd path.route = b.probe c.cwd path.route) :
    Paired (Still b a) c b a (ofFile path) := by
  have hlook : a.isFile c.cwd path.route = b.isFile c.cwd path.route := by
    simp only [FileSystem.isFile, h]
  refine .look_bind hlook ⟨rfl, rfl⟩ fun found hfound => ?_
  split
  · rename_i hf
    obtain rfl := hf
    have hread : a.read c.cwd path.route = b.read c.cwd path.route := by
      simp only [FileSystem.read, status_eq_of_probe h hfound]
    refine .bind (.look hread ⟨rfl, rfl⟩) fun bytes b' a' hs => ?_
    refine .bind (.ofExcept _ _ hs) fun text b' a' hs => ?_
    exact .bind (.report _ hs) fun _ _ _ hs => .pure _ hs
  · exact .pure _ ⟨rfl, rfl⟩

theorem paired_readAll {files : List Path}
    (h : ∀ file ∈ files, a.probe c.cwd file.route = b.probe c.cwd file.route) :
    Paired (Still b a) c b a (readAll files) := by
  induction files with
  | nil => exact .pure _ ⟨rfl, rfl⟩
  | cons file rest ih =>
    refine .bind (paired_ofFile (h file (List.mem_cons_self ..))) fun options b' a' hs => ?_
    obtain ⟨rfl, rfl⟩ := hs
    refine .bind (ih fun other ho => h other (List.mem_cons_of_mem _ ho)) fun more b' a' hs => ?_
    exact .pure _ hs

/-- The content of a file alone decides what is read from it. -/
theorem result_ofFile_of_status {loc : Location} {bytes : Bytes} {executable : Bool}
    (h : fs.status c.cwd path.route = .ok (loc, .file bytes executable)) :
    (ofFile path).result c fs =
      match Utf8.decodeStream bytes with
      | .ok text => .ok (ofText text)
      | .error e => .error (.notText e) := by
  have hfile : fs.isFile c.cwd path.route = .ok true := isFile_of_status h
  have hread : fs.read c.cwd path.route = .ok bytes := by simp [FileSystem.read, h]
  rw [result, ofFile, run_bind, Action.isFile, run_look]
  dsimp only
  rw [hfile]
  dsimp only
  rw [if_pos rfl, run_bind, Action.readFile, run_look]
  dsimp only
  rw [hread]
  dsimp only
  rw [run_bind, run_ofExcept]
  cases Utf8.decodeStream bytes <;> rfl

theorem result_readAll_cons (c : Context) (fs : FileSystem) (path : Path) (rest : List Path) :
    (readAll (path :: rest)).result c fs = (do
      let options ← (ofFile path).result c fs
      let more ← (readAll rest).result c fs
      pure (options ++ more)) := by
  have hrest : Paired (Still fs fs) c fs fs (readAll rest) := paired_readAll fun _ _ => rfl
  have hpure (options : List String) : Paired (Still fs fs) c fs fs (pure options) := .pure _ ⟨rfl, rfl⟩
  have hmore (options : List String) :
      Paired (Still fs fs) c fs fs (do pure (options ++ (← readAll rest))) :=
    .bind hrest fun more _ _ hs => .pure _ hs
  rw [readAll, result_bind (paired_ofFile rfl) hmore]
  congr 1
  funext options
  rw [result_bind hrest fun more => hpure (options ++ more)]
  rfl

/-- The options of a workspace are those of its two files, one after the other. -/
theorem result_ofWorkspace (c : Context) (fs : FileSystem) (workspace : Path) :
    (ofWorkspace workspace).result c fs = (do
      let sbt ← (ofFile (workspace / ".sbtopts")).result c fs
      let jvm ← (ofFile (workspace / ".jvmopts")).result c fs
      pure (sbt ++ jvm)) := by
  have hnil : (readAll []).result c fs = .ok [] := rfl
  rw [ofWorkspace, Layout.optionFiles, result_readAll_cons, result_readAll_cons, hnil]
  cases (ofFile (workspace / ".sbtopts")).result c fs <;>
    cases (ofFile (workspace / ".jvmopts")).result c fs <;>
      simp [bind, Except.bind, pure, Except.pure]

/-- Files deliver options unchanged. A file of UTF-8 in which options are laid out one on a line is read back as
those. Any file is read as options, or fails, which it does exactly if it is not UTF-8. The options of a workspace
are those of its two files, one after the other. -/
theorem options_of_file (c : Context) (fs : FileSystem) :
    (∀ path loc text executable options,
      fs.status c.cwd path.route = .ok (loc, .file (Utf8.encode text) executable) →
      (∀ o ∈ options, IsOption o) → Written options text.toList →
      (ofFile path).result c fs = .ok options) ∧
    (∀ path loc bytes executable, fs.status c.cwd path.route = .ok (loc, .file bytes executable) →
      ((∃ cause, (ofFile path).result c fs = .error (.notText cause)) ∧ ¬ ∃ text, bytes = Utf8.encode text) ∨
      ∃ options, (ofFile path).result c fs = .ok options ∧ (∃ text, bytes = Utf8.encode text) ∧
        ∀ o ∈ options, IsOption o) ∧
    ∀ workspace, (ofWorkspace workspace).result c fs = (do
      let sbt ← (ofFile (workspace / ".sbtopts")).result c fs
      let jvm ← (ofFile (workspace / ".jvmopts")).result c fs
      pure (sbt ++ jvm)) := by
  refine ⟨fun path loc text executable options hs ho hw => ?_, fun path loc bytes executable hs => ?_,
    result_ofWorkspace c fs⟩
  · have hread : Utf8.decodeStream (Utf8.encode text) = .ok text.toList := Utf8.decodeStream_eq_ok_iff.2 rfl
    rw [result_ofFile_of_status hs, hread]
    exact congrArg Except.ok (ofText_of_written hw ho)
  · rw [result_ofFile_of_status hs, ← Utf8.exists_decodeStream_eq_iff]
    cases Utf8.decodeStream bytes with
    | error cause => exact .inl ⟨⟨cause, rfl⟩, by simp⟩
    | ok text => exact .inr ⟨ofText text, rfl, ⟨text, rfl⟩, fun o => isOption_of_mem_ofText⟩

def fileWith (text : String) : FileSystem :=
  FileSystem.empty.place [] "ws" .directory
    |>.place ["ws"] ".jvmopts" (.file (Utf8.encode text) false)

/-- Lines with separators that end none, and an empty line whose end goes with that of the line before. -/
def separated : String := "\u2028-Dx=a\u0085b \r\n-v\u001c"

/-- A separator that ends no line stays inside of an option and is dropped before and after it. -/
theorem options_of_file_separated :
    (ofFile (.parse "ws/.jvmopts")).result .bare (fileWith separated) =
      .ok ["-Dx=a\u0085b", "-v"] := by
  have hs : (fileWith separated).status [] (Path.parse "ws/.jvmopts").route =
      .ok ([".jvmopts", "ws"], .file (Utf8.encode separated) false) := by
    decide +kernel
  have hoptions : ∀ o ∈ ["-Dx=a\u0085b", "-v"], IsOption o := by decide +kernel
  have hfirst : WrittenLine ["-Dx=a\u0085b"] (['\u2028'] ++ "-Dx=a\u0085b".toList ++ [' ']) :=
    .option (by decide) (by decide)
  have hempty : WrittenLine [] [] := .blank (by decide)
  have hlast : WrittenLine ["-v"] ([] ++ "-v".toList ++ ['\u001c']) := .option (by decide) (by decide)
  have hwritten := Written.line hfirst (show ['\r'] ∈ lineEnds by decide)
    (.line hempty (show ['\n'] ∈ lineEnds by decide) (.last hlast))
  have htext : (['\u2028'] ++ "-Dx=a\u0085b".toList ++ [' ']) ++ ['\r'] ++
      ([] ++ ['\n'] ++ ([] ++ "-v".toList ++ ['\u001c'])) = separated.toList := by
    decide +kernel
  rw [htext] at hwritten
  exact (options_of_file .bare _).1 _ _ _ _ _ hs hoptions hwritten

end SbtWorkspace.Options
