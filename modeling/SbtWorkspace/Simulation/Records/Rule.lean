import SbtWorkspace.Simulation.Regex.Basic

/-! Rules for records: what is done with the records of a text for which a pattern holds. Expressions have values,
and statements are carried out. -/

namespace SbtWorkspace.Simulation.Records

/-- An operator between two values. -/
inductive Operator where
  | add
  | subtract
  | multiply
  | divide
  | remainder
  | power
  | join
  | less
  | atMost
  | equal
  | differs
  | greater
  | atLeast
  deriving DecidableEq, Repr

inductive Expression where
  | number (x : Float)
  | text (cs : List Char)
  | regex (r : Regex)
  | variable (name : String)
  | field (index : Expression)
  | element (table : String) (indices : List Expression)
  | isKey (indices : List Expression) (table : String)
  /-- An expression in brackets, into which no value is put. -/
  | group (e : Expression)
  | assign (goal : Expression) (change : Option Operator) (value : Expression)
  /-- A change of a number by one; the value is the number before it or after it. -/
  | step (goal : Expression) (isUp isBefore : Bool)
  | binary (o : Operator) (a b : Expression)
  | fits (negated : Bool) (subject pattern : Expression)
  | both (a b : Expression)
  | either (a b : Expression)
  | choice (condition a b : Expression)
  | negation (a : Expression)
  | minus (a : Expression)
  | plus (a : Expression)
  | call (name : String) (args : List Expression)
  | builtin (name : String) (args : List Expression)
  | nextRecord (goal : Option Expression)
  | nextOfFile (goal : Option Expression) (path : Expression)
  | nextOfCommand (goal : Option Expression) (command : Expression)

def Expression.isGoal : Expression → Bool
  | .variable _ | .field _ | .element _ _ => true
  | _ => false

inductive Direction where
  | output
  | over (path : Expression)
  | behind (path : Expression)
  | into (command : Expression)

inductive Statement where
  | nothing
  | evaluate (e : Expression)
  | print (items : List Expression) (direction : Direction)
  | printFormat (items : List Expression) (direction : Direction)
  | sequence (statements : List Statement)
  | conditional (condition : Expression) (yes no : Statement)
  /-- A loop; `bodyFirst` says that its condition is asked after its body. -/
  | loop (bodyFirst : Bool) (condition : Expression) (step body : Statement)
  | each (name table : String) (body : Statement)
  | leave
  | goOn
  | next
  | nextFile
  | exit (code : Option Expression)
  | return (value : Option Expression)
  | delete (table : String) (indices : List Expression)
  | clear (table : String)

/-- When the statement of a rule is carried out. -/
inductive Occasion where
  | start
  | finish
  | always
  | when (condition : Expression)
  | range (first last : Expression)

/-- A rule. Without a statement, it writes the record. -/
structure Rule where
  occasion : Occasion
  action : Option Statement

structure Function where
  parameters : List String
  body : Statement

structure Rules where
  rules : List Rule := []
  functions : List (String × Function) := []

end SbtWorkspace.Simulation.Records
