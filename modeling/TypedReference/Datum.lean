/-
# Data

Declarations are written as trees of data: texts, numbers and truth values in lists and objects. An
object keeps its fields in order. `Datum.written` is the form in files, `Datum.shown` the form in
messages.
-/
import TypedReference.Text.Decimal
import TypedReference.Text.Quoted

namespace TypedReference

/-- A tree of data. -/
inductive Datum where
  /-- No value. -/
  | null
  /-- A truth value. -/
  | bool (b : Bool)
  /-- A whole number. -/
  | int (n : Int)
  /-- A number with a fraction or an exponent. -/
  | float (x : Float)
  /-- A text. -/
  | text (s : String)
  /-- Values in order. -/
  | list (items : List Datum)
  /-- Values under names, in order. -/
  | object (fields : List (String × Datum))
  deriving Inhabited

namespace Datum

/-! ## The form in files -/

/-- A character of a text in a file: quotes, backslashes and controls are escaped, and all else
stands for itself. -/
def escapedChar (c : Char) : List Char :=
  if c == '"' then ['\\', '"']
  else if c == '\\' then ['\\', '\\']
  else if c == '\n' then ['\\', 'n']
  else if c == '\r' then ['\\', 'r']
  else if c == '\t' then ['\\', 't']
  else if c == '\x08' then ['\\', 'b']
  else if c == '\x0c' then ['\\', 'f']
  else if c.toNat < 0x20 then '\\' :: 'u' :: Text.hexPadded 4 c.toNat
  else [c]

/-- A text in a file. -/
def writtenText (s : String) : String :=
  "\"" ++ String.ofList (s.toList.flatMap escapedChar) ++ "\""

/-- What stands between the items of a list or object and around them: with an indent each item has
a line of its own, and without one all is on one line. -/
structure Layout where
  /-- How far each level is indented; `none` for one line. -/
  indent : Option Nat

namespace Layout

/-- What stands before the first item, at the level of the items. -/
def start (l : Layout) (level : Nat) : String :=
  match l.indent with
  | none => ""
  | some n => "\n" ++ String.ofList (List.replicate (n * level) ' ')

/-- What stands between two items. -/
def between (l : Layout) (level : Nat) : String :=
  match l.indent with
  | none => ", "
  | some _ => "," ++ l.start level

/-- Items between an opening and a closing sign; none at all leave the signs together. -/
def enclose (l : Layout) (level : Nat) (opening closing : String) (items : List String) : String :=
  if items.isEmpty then opening ++ closing
  else
    opening ++ l.start (level + 1) ++ (l.between (level + 1)).intercalate items ++ l.start level ++
      closing

end Layout

mutual

/-- The form of a datum in a file, at a level of nesting. -/
def writtenAt (l : Layout) (level : Nat) : Datum → String
  | null => "null"
  | bool b => if b then "true" else "false"
  | int n => toString n
  | float x => Text.floatText x
  | text s => writtenText s
  | list items => l.enclose level "[" "]" (writtenItems l (level + 1) items)
  | object fields => l.enclose level "\x7b" "\x7d" (writtenFields l (level + 1) fields)

/-- The forms of several data. -/
def writtenItems (l : Layout) (level : Nat) : List Datum → List String
  | [] => []
  | d :: ds => writtenAt l level d :: writtenItems l level ds

/-- The forms of several fields. -/
def writtenFields (l : Layout) (level : Nat) : List (String × Datum) → List String
  | [] => []
  | (name, d) :: fields =>
    (writtenText name ++ ": " ++ writtenAt l level d) :: writtenFields l level fields

end

/-- The form of a datum in a file. -/
def written (l : Layout) (d : Datum) : String := writtenAt l 0 d

/-! ## The form in messages -/

mutual

/-- The form of a datum in a message. -/
def shown : Datum → String
  | null => "None"
  | bool b => if b then "True" else "False"
  | int n => toString n
  | float x => Text.floatText x
  | text s => Text.quoted s
  | list items => "[" ++ ", ".intercalate (shownItems items) ++ "]"
  | object fields => "\x7b" ++ ", ".intercalate (shownFields fields) ++ "\x7d"

/-- The forms of several data. -/
def shownItems : List Datum → List String
  | [] => []
  | d :: ds => shown d :: shownItems ds

/-- The forms of several fields. -/
def shownFields : List (String × Datum) → List String
  | [] => []
  | (name, d) :: fields => (Text.quoted name ++ ": " ++ shown d) :: shownFields fields

end

end Datum

end TypedReference
