/-
# Command lines

A program takes options, which have names and may need a value, and perhaps one operand. Names may
be shortened as long as they stay unambiguous, short options may share a dash, and after two dashes
nothing is an option any more. All words are told apart before any of them is acted on.
-/
import TypedReference.Text.Quoted

namespace TypedReference.CommandLine

open Text

/-! ## Grammars -/

/-- What an option does to the settings of a program. -/
inductive Meaning (σ : Type) where
  /-- It asks for help. -/
  | help
  /-- It stands alone. -/
  | flag (set : σ → σ)
  /-- It needs a value, which two dashes attached to it leave out. -/
  | value (set : Option String → σ → σ)

/-- An option of a program. -/
structure Choice (σ : Type) where
  /-- The names, with their dashes. -/
  names : List String
  /-- What it does. -/
  meaning : Meaning σ

/-- The word of a command line that is no option. -/
structure Operand (σ : Type) where
  /-- The name in messages. -/
  name : String
  /-- What it does. -/
  set : String → σ → σ

/-- What a program takes. An operand has to be given. -/
structure Grammar (σ : Type) where
  /-- The options. -/
  choices : List (Choice σ)
  /-- The operand, if there is one. -/
  operand? : Option (Operand σ)

/-! ## Faults -/

/-- What is wrong with a command line. -/
inductive UsageFault where
  /-- A word may be short for several options. -/
  | ambiguous (word : String) (candidates : List String)
  /-- An option has no value. -/
  | noValue (names : List String)
  /-- An option that stands alone was given a value. -/
  | needlessValue (names : List String) (value : String)
  /-- The operand is missing. -/
  | noOperand (name : String)
  /-- Words that mean nothing. -/
  | unrecognized (words : List String)
  deriving DecidableEq, Repr

namespace UsageFault

/-- The text for a fault with an option. -/
def about (names : List String) (text : String) : String :=
  "argument " ++ "/".intercalate names ++ ": " ++ text

/-- The text shown for a fault. -/
def message : UsageFault → String
  | ambiguous word candidates =>
    "ambiguous option: " ++ word ++ " could match " ++ ", ".intercalate candidates
  | noValue names => about names "expected one argument"
  | needlessValue names value => about names ("ignored explicit argument " ++ quoted value)
  | noOperand name => "the following arguments are required: " ++ name
  | unrecognized words => "unrecognized arguments: " ++ " ".intercalate words

end UsageFault

/-- Why a program does not get to work. -/
inductive Stop where
  /-- It was asked for help. -/
  | help
  /-- The command line is at fault. -/
  | fault (cause : UsageFault)
  deriving DecidableEq, Repr

/-! ## Telling words apart -/

namespace Choice

variable {σ : Type}

/-- The option needs a value. -/
def takesValue (c : Choice σ) : Bool :=
  match c.meaning with
  | .value _ => true
  | _ => false

/-- Acts on an option; only one that needs a value looks at it. -/
def act (c : Choice σ) (value : Option String) (s : σ) : Except Stop σ :=
  match c.meaning with
  | .help => .error .help
  | .flag set => .ok (set s)
  | .value set => .ok (set value s)

end Choice

/-- An option as a word of a command line names it. -/
structure Mention (σ : Type) where
  /-- The option. -/
  choice : Choice σ
  /-- The full name. -/
  name : String
  /-- What is attached to the name. -/
  attached? : Option (List Char)

/-- A word of a command line. -/
inductive Word (σ : Type) where
  /-- A word that names no option. -/
  | plain (text : String)
  /-- An option. -/
  | mention (m : Mention σ)
  /-- A word that looks like an option and is none. -/
  | unknown (text : String)
  /-- The two dashes after which no word is an option. -/
  | separator

/-- The part of a word before the first equals sign, and the part after it. -/
def cutAtEquals (l : List Char) : List Char × Option (List Char) :=
  match l.dropWhile (· != '=') with
  | [] => (l, none)
  | _ :: value => (l.takeWhile (· != '='), some value)

/-- A negative number in decimal digits, perhaps with a line feed after it. -/
def isNegativeNumber (l : List Char) : Bool :=
  let body := if l.getLast? = some '\n' then l.dropLast else l
  match body with
  | '-' :: number =>
    match number.splitOn '.' with
    | [digits] => !digits.isEmpty && digits.all isDecimal
    | [whole, fraction] => whole.all isDecimal && !fraction.isEmpty && fraction.all isDecimal
    | _ => false
  | _ => false

namespace Grammar

variable {σ : Type}

/-- All options by their names. -/
def names (g : Grammar σ) : List (String × Choice σ) :=
  g.choices.flatMap fun c => c.names.map fun name => (name, c)

/-- The option that is named in full, and what is attached to the name. -/
def named? (g : Grammar σ) (name : List Char) (attached? : Option (List Char)) :
    Option (Mention σ) :=
  (g.names.lookup (String.ofList name)).map fun choice => ⟨choice, String.ofList name, attached?⟩

/-- The options that a word may be short for. A name with one dash has a single character; what
follows is attached to it. -/
def candidates (g : Grammar σ) : List Char → List (Mention σ)
  | '-' :: '-' :: r =>
    let (name, attached?) := cutAtEquals ('-' :: '-' :: r)
    (g.names.filter fun (full, _) => name.isPrefixOf full.toList).map
      fun (full, choice) => ⟨choice, full, attached?⟩
  | '-' :: c :: r => (g.named? ['-', c] (some r)).toList
  | _ => []

/-- The option that a word names in full, perhaps with a value after an equals sign. -/
def inFull? (g : Grammar σ) (l : List Char) : Option (Mention σ) :=
  match g.named? l none with
  | some m => some m
  | none =>
    match cutAtEquals l with
    | (name, some value) => g.named? name (some value)
    | _ => none

/-- Tells what a word is that is not the separator. -/
def word (g : Grammar σ) (w : String) : Except UsageFault (Word σ) :=
  let l := w.toList
  if l.head? ≠ some '-' ∨ l = ['-'] then .ok (.plain w)
  else
    match g.inFull? l with
    | some m => .ok (.mention m)
    | none =>
      match g.candidates l with
      | [m] => .ok (.mention m)
      | [] => .ok (if isNegativeNumber l || l.contains ' ' then .plain w else .unknown w)
      | ms => .error (.ambiguous w (ms.map Mention.name))

/-- Tells what all words are. -/
def words (g : Grammar σ) : List String → Except UsageFault (List (Word σ))
  | [] => .ok []
  | w :: ws =>
    if w = "--" then .ok (.separator :: ws.map .plain)
    else do
      let first ← g.word w
      return first :: (← g.words ws)

/-! ## Acting on words -/

/-- The options that share a dash: those that stand alone, and the last one, which may have a value
attached. -/
structure Bundle (σ : Type) where
  /-- The options before the last. -/
  before : List (Choice σ)
  /-- The last option. -/
  last : Choice σ
  /-- What is attached to the last option. -/
  attached? : Option (List Char)

/-- Takes apart what is attached to an option with one dash. -/
def bundle (g : Grammar σ) (c : Choice σ) (attached : List Char) : Except UsageFault (Bundle σ) :=
  if c.takesValue then .ok ⟨[], c, some attached⟩
  else
    match attached with
    | [] => .error (.needlessValue c.names "")
    | x :: r =>
      match g.named? ['-', x] none with
      | none => .error (.needlessValue c.names (String.ofList attached))
      | some next =>
        if r.isEmpty then .ok ⟨[c], next.choice, none⟩
        else (g.bundle next.choice r).map fun b => { b with before := c :: b.before }

/-- The options that are mentioned in one word. -/
def mentioned (g : Grammar σ) (m : Mention σ) : Except UsageFault (Bundle σ) :=
  match m.attached? with
  | none => .ok ⟨[], m.choice, none⟩
  | some attached =>
    if m.choice.takesValue then .ok ⟨[], m.choice, some attached⟩
    else if "--".toList.isPrefixOf m.name.toList then
      .error (.needlessValue m.choice.names (String.ofList attached))
    else g.bundle m.choice attached

/-- The value that is attached to an option. Two dashes are the separator there as well, and no
value. -/
def attachedValue (attached : List Char) : Option String :=
  if attached = ['-', '-'] then none else some (String.ofList attached)

/-- Acts on the options of a bundle, the last one with a value. -/
def Bundle.act (b : Bundle σ) (value : Option String) (s : σ) : Except Stop σ := do
  let s ← b.before.foldlM (fun s c => c.act none s) s
  b.last.act value s

/-- How far a command line has been read. -/
structure Progress (σ : Type) where
  /-- The settings so far. -/
  settings : σ
  /-- The operand, if it is still to come. -/
  due? : Option (Operand σ)
  /-- The words so far that mean nothing. -/
  extra : List String

/-- Takes note of a word that means nothing. -/
def Progress.skip (p : Progress σ) (w : String) : Progress σ := { p with extra := p.extra ++ [w] }

/-- Takes a word for the operand. -/
def Progress.take (p : Progress σ) (o : Operand σ) (w : String) : Progress σ :=
  { p with settings := o.set w p.settings, due? := none }

/-- Acts on words from left to right. The separator goes with the operand next to it. -/
def scan (g : Grammar σ) (p : Progress σ) : List (Word σ) → Except Stop (Progress σ)
  | [] => .ok p
  | .unknown w :: rest => g.scan (p.skip w) rest
  | .plain w :: rest =>
    match p.due? with
    | none => g.scan (p.skip w) rest
    | some o =>
      match rest with
      | .separator :: rest => g.scan (p.take o w) rest
      | rest => g.scan (p.take o w) rest
  | .separator :: rest =>
    match p.due?, rest with
    | some o, .plain w :: rest => g.scan (p.take o w) rest
    | _, rest => g.scan (p.skip "--") rest
  | .mention m :: rest =>
    match g.mentioned m with
    | .error f => .error (.fault f)
    | .ok b =>
      match b.last.takesValue, b.attached?, rest with
      | true, none, .plain w :: rest => do
        let s ← b.act (some w) p.settings
        g.scan { p with settings := s } rest
      | true, none, _ => .error (.fault (.noValue b.last.names))
      | _, attached?, rest => do
        let s ← b.act (attached?.bind attachedValue) p.settings
        g.scan { p with settings := s } rest

/-- The settings that a command line makes of the given ones. -/
def read (g : Grammar σ) (defaults : σ) (args : List String) : Except Stop σ := do
  let ws ← (g.words args).mapError .fault
  let p ← g.scan ⟨defaults, g.operand?, []⟩ ws
  match p.due? with
  | some o => .error (.fault (.noOperand o.name))
  | none => if p.extra.isEmpty then .ok p.settings else .error (.fault (.unrecognized p.extra))

end Grammar

end TypedReference.CommandLine
