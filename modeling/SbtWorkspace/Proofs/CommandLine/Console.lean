import SbtWorkspace.CommandLine.Commands
import SbtWorkspace.Proofs.Action

/-! What a command does to a machine when it prints. A message or a table is laid out first; if that fails, or if
standard output cannot take what was laid out, nothing is printed. Main statements: `run_printFailure` and
`run_printTable` for what is laid out, `run_printFailure_exit` for a command that ends with an error, and rules for
operations that print nothing. -/

namespace SbtWorkspace

/-- The machine with more text on standard output. -/
def Machine.printed (m : Machine) (t : Text) : Machine := { m with out := m.out ++ t }

@[simp] theorem Machine.out_printed (m : Machine) (t : Text) : (m.printed t).out = m.out ++ t := rfl

@[simp] theorem Machine.files_printed (m : Machine) (t : Text) : (m.printed t).files = m.files := rfl

def Machine.warned (m : Machine) (t : Text) : Machine := { m with err := m.err ++ t }

namespace CommandLine
open SbtWorkspace.Action

variable {c : Context} {m : Machine} {setup : Setup} {width : Nat}

def failureText (message : Text) : Text :=
  styled "error" (Text.ofString "Error:") ++ Text.ofString " " ++ message

def warningText (message : Text) : Text :=
  styled "warning" (Text.ofString "Warning:") ++ Text.ofString " " ++ message

def propertyTable (title : String) (rows : List (String × Text)) : Terminal.Table where
  title := Text.ofString title
  heads := (Text.ofString "Property", Text.ofString "Value")
  rows := rows.map fun r => (Text.ofString r.1, r.2)

/-- What comes of a text on standard output. -/
def written (c : Context) (m : Machine) (t : Text) : Except Failure Unit × Machine :=
  match c.host.unencodable? t with
  | none => (.ok (), m.printed t)
  | some e => (.error (.unencodable e), m)

def noted (m : Machine) (t : Text) : Except Failure Unit × Machine := (.ok (), m.warned t)

/-- What printing comes to: laid out lines are sent, and text that cannot be laid out is a failure. -/
def shown (lines : Except Terminal.Markup.Error (List Text)) (m : Machine)
    (sent : Text → Except Failure Unit × Machine) : Except Failure Unit × Machine :=
  match lines with
  | .ok lines => sent (Terminal.joinLines lines)
  | .error e => (.error (.markup e), m)

theorem run_layOut (message : Text) :
    (layOut width message).run c m =
      (match Terminal.messageLines (effectiveWidth c.env width) message with
        | .ok lines => .ok (Terminal.joinLines lines)
        | .error e => .error (.markup e), m) := by
  show ((ofExcept _ _ >>= fun lines => pure (Terminal.joinLines lines) : Action Text)).run c m = _
  rw [run_bind, run_ofExcept]
  cases Terminal.messageLines (effectiveWidth c.env width) message <;> rfl

theorem run_print (t : Text) : (Action.print t).run c m = written c m t := by
  show (match c.host.unencodable? t with | none => _ | some e => _) = _
  rw [written]
  cases c.host.unencodable? t <;> rfl

example : (Action.print (Text.ofString "v" ++ [.surrogate 0])).run .bare { files := .empty } =
    (.error (.unencodable ⟨0, 1, 0⟩), { files := .empty }) := rfl

theorem run_layOut_bind (message : Text) (send : Text → Action Unit) :
    (layOut width message >>= send).run c m =
      shown (Terminal.messageLines (effectiveWidth c.env width) message) m fun t => (send t).run c m := by
  rw [run_bind, run_layOut]
  cases Terminal.messageLines (effectiveWidth c.env width) message <;> rfl

theorem run_printInfo (message : String) :
    (printInfo width message).run c m =
      shown (Terminal.messageLines (effectiveWidth c.env width)
        (styled "info" (Text.ofString message))) m (written c m) := by
  rw [printInfo, run_layOut_bind]
  simp only [run_print]

theorem run_printSuccess (message : String) :
    (printSuccess width message).run c m =
      shown (Terminal.messageLines (effectiveWidth c.env width)
        (styled "success" (Text.ofString message))) m (written c m) := by
  rw [printSuccess, run_layOut_bind]
  simp only [run_print]

theorem run_printWarning (message : Text) :
    (printWarning width message).run c m =
      shown (Terminal.messageLines (effectiveWidth c.env width) (warningText message)) m (noted m) := by
  unfold printWarning warningText
  exact run_layOut_bind _ _

theorem run_printFailure (message : Text) :
    (printFailure width message).run c m =
      shown (Terminal.messageLines (effectiveWidth c.env width) (failureText message)) m (noted m) := by
  unfold printFailure failureText
  exact run_layOut_bind _ _

theorem run_printTable (title : String) (rows : List (String × Text)) :
    (printTable width title rows).run c m =
      shown ((propertyTable title rows).lines (effectiveWidth c.env width)) m (written c m) := by
  have hc : context.run c m = (.ok c, m) := rfl
  have hrun (lines : Except Terminal.Markup.Error (List Text)) :
      (ofExcept .markup lines >>= fun lines => Action.print (Terminal.joinLines lines)).run c m =
        shown lines m (written c m) := by
    rw [run_bind, run_ofExcept]
    cases lines with
    | error e => rfl
    | ok lines => exact run_print _
  rw [printTable, run_bind, hc]
  exact hrun ((propertyTable title rows).lines (effectiveWidth c.env width))

/-- A line is a string, so standard output takes it. -/
theorem run_printLine (line : String) :
    (printLine line).run c m =
      (.ok (), m.printed (Terminal.dropSequences (Text.ofString (line ++ "\n")))) := by
  have hscalar (n : Fin 2048) : CodePoint.surrogate n ∉ Terminal.dropSequences (Text.ofString (line ++ "\n")) :=
    fun h => by simpa [Text.ofString] using (Terminal.dropSequences_sublist _).subset h
  have hnone : c.host.unencodable? (Terminal.dropSequences (Text.ofString (line ++ "\n"))) = none := by
    rw [Host.unencodable?, Utf8.unencodable?_eq_none_iff.2 hscalar]
    exact ite_self none
  rw [printLine, run_print, written, hnone]

/-- A command that is ended with an error: the message is on standard error and the exit code is 1, if the
message can be laid out. -/
theorem run_printFailure_exit {α : Type} (message : Text) :
    (do printFailure width message; throw (.exit 1) : Action α).run c m =
      match Terminal.messageLines (effectiveWidth c.env width) (failureText message) with
      | .ok lines => (.error (.exit 1), m.warned (Terminal.joinLines lines))
      | .error e => (.error (.markup e), m) := by
  rw [run_bind, run_printFailure]
  cases Terminal.messageLines (effectiveWidth c.env width) (failureText message) <;> rfl

theorem run_refuse (message : String) :
    (refuse setup message).run c m =
      match Terminal.messageLines (effectiveWidth c.env setup.width)
        (failureText (Text.ofString message)) with
      | .ok lines => (.error (.exit 1), m.warned (Terminal.joinLines lines))
      | .error e => (.error (.markup e), m) := by
  rw [refuse, run_printFailure_exit]

/-! ## Operations that print nothing -/

variable {α β : Type}

def Quiet (x : Action α) : Prop := ∀ c m, (x.run c m).2.out = m.out

theorem Quiet.pure (a : α) : Quiet (pure a) := fun _ _ => rfl

theorem Quiet.throw (e : Failure) : Quiet (throw e : Action α) := fun _ _ => rfl

theorem Quiet.report (e : Event) : Quiet (Action.report e) := fun _ _ => rfl

theorem Quiet.context : Quiet Action.context := fun _ _ => rfl

theorem Quiet.bind {x : Action α} {f : α → Action β} (hx : Quiet x) (hf : ∀ a, Quiet (f a)) :
    Quiet (x >>= f) := by
  intro c m
  have h := hx c m
  rw [run_bind]
  rcases hr : x.run c m with ⟨_ | a, m'⟩ <;> rw [hr] at h
  · exact h
  · exact (hf a c m').trans h

theorem Quiet.tryCatch {x : Action α} {handle : Failure → Action α} (hx : Quiet x)
    (hh : ∀ e, Quiet (handle e)) : Quiet (tryCatch x handle) := by
  intro c m
  have h := hx c m
  rw [run_tryCatch]
  rcases hr : x.run c m with ⟨e | a, m'⟩ <;> rw [hr] at h
  · exact (hh e c m').trans h
  · exact h

theorem Quiet.ofExcept {ε : Type} (failure : ε → Failure) (r : Except ε α) : Quiet (ofExcept failure r) := by
  cases r with
  | error e => exact .throw _
  | ok a => exact .pure a

theorem Quiet.known (find : Environment → Option α) : Quiet (known find) := by
  refine .bind .context fun c => ?_
  cases find c.env with
  | none => exact .throw _
  | some a => exact .pure a

theorem Quiet.look (call : FileSystem → Location → Except Fault α) (path : String) :
    Quiet (look call path) := by
  intro c m
  rw [run_look]

theorem Quiet.change (call : FileSystem → Location → Except Fault FileSystem) (path : String) :
    Quiet (change call path) := by
  intro c m
  rw [run_change]
  cases call m.files c.cwd <;> rfl

theorem Quiet.discard {x : Action α} (hx : Quiet x) : Quiet (discard x) := .bind hx fun _ => .pure _

theorem quiet_ensureDirectory (p : Path) : Quiet (ensureDirectory p) := by
  refine .tryCatch (.change _ _) fun e => ?_
  cases e with
  | system e =>
    dsimp only
    split
    · exact .throw _
    · refine .bind (.look _ _) fun there => ?_
      split
      · exact .pure _
      · exact .throw _
  | _ => exact .throw _

theorem quiet_ensureDirectories (root : Path.Root) (parts : List Path.Part) :
    Quiet (ensureDirectories root parts) := by
  induction parts with
  | nil => exact quiet_ensureDirectory _
  | cons part above ih =>
    refine .tryCatch (.change _ _) fun e => ?_
    cases e with
    | system e =>
      dsimp only
      split
      · exact .throw _
      split
      · exact .bind ih fun _ => quiet_ensureDirectory _
      · refine .bind (.look _ _) fun there => ?_
        split
        · exact .pure _
        · exact .throw _
    | _ => exact .throw _

end CommandLine

end SbtWorkspace
