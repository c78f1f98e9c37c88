import TagWeave.Number.Rounded
import TagWeave.Template.Filter.Number

/-!
# Filling in a text

A text with directives such as `%s` or `%5.2f`, each of which takes an argument and says how it is
written.
-/

namespace TagWeave.Template.Filter

/-- How an argument is written. -/
structure Directive where
  /-- The name of the argument, instead of its place. -/
  name? : Option String
  flags : List Char
  width : Nat
  precision? : Option Nat
  kind : Char

inductive Piece
  | char (c : Char)
  | directive (d : Directive)

/-! ## Reading -/

/-- The kinds of directives: integers, floating-point numbers, characters and texts. -/
def directiveKinds : List Char := "dioxXeEfFgGcs".toList

/-- Reads digits, which may be missing. -/
def extent (text : List Char) : Nat × List Char :=
  (Number.valueOfDigits (text.takeWhile Char.isDigit), text.dropWhile Char.isDigit)

/-- Reads a directive from behind its percent sign. -/
def directive? (text : List Char) : Option (Directive × List Char) := do
  let (name?, text) ← match text with
    | '(' :: rest => (Text.splitOnce? [')'] rest).map fun (name, rest) => (some name, rest)
    | text => some (none, text)
  let isFlag : Char → Bool := ['-', '+', ' ', '0', '#'].contains
  let flags := text.takeWhile isFlag
  let (width, text) := extent (text.dropWhile isFlag)
  let (precision?, text) := match text with
    | '.' :: rest => (some (extent rest).1, (extent rest).2)
    | text => (none, text)
  match text.dropWhile ['h', 'l', 'L'].contains with
  | [] => none
  | kind :: rest =>
    if directiveKinds.contains kind then
      some (⟨name?.map .ofList, flags, width, precision?, kind⟩, rest)
    else none

/-- The pieces of a text. Two percent signs stand for one. Every step takes a character. -/
def formatPieces? : (steps : Nat) → List Char → Option (List Piece)
  | 0, _ => none
  | _ + 1, [] => some []
  | steps + 1, '%' :: '%' :: text => do return .char '%' :: (← formatPieces? steps text)
  | steps + 1, '%' :: text => do
    let (d, rest) ← directive? text
    return .directive d :: (← formatPieces? steps rest)
  | steps + 1, c :: text => do return .char c :: (← formatPieces? steps text)

/-! ## Writing -/

/-- A written argument before it is brought to its width. -/
structure Written where
  /-- A sign, and what tells the base. -/
  before : List Char
  body : List Char
  /-- Whether zeros may stand before the body. -/
  isNumber : Bool

def Directive.has (d : Directive) (flag : Char) : Bool := d.flags.contains flag

def Directive.sign (d : Directive) (negative : Bool) : List Char :=
  if negative then ['-']
  else if d.has '+' && d.kind != 's' then ['+']
  else if d.has ' ' then [' ']
  else []

/-- The width counts bytes. -/
def Directive.toWidth (d : Directive) (w : Written) : List Char :=
  let missing := d.width - (String.ofList (w.before ++ w.body)).utf8ByteSize
  if d.has '-' then w.before ++ w.body ++ List.replicate missing ' '
  else if d.has '0' && w.isNumber then w.before ++ List.replicate missing '0' ++ w.body
  else List.replicate missing ' ' ++ w.before ++ w.body

/-- An integer in a base. -/
def Directive.integer (d : Directive) (base : Nat) (mark : List Char) (n : Int) : Written :=
  ⟨d.sign (n < 0) ++ (if d.has '#' then mark else []), Nat.toDigits base n.natAbs, true⟩

/-- An integer in the form of a floating-point number. -/
def Directive.integerAsFloat (d : Directive) (n : Int) : Written :=
  let places := d.precision?.getD 6
  let kind := d.kind.toLower
  let body :=
    if kind == 'e' then Number.integerExponentText (d.has '#') places n.natAbs
    else if kind == 'g' then Number.integerGeneralText (d.has '#') places n.natAbs
    else Number.integerFixedText (d.has '#') places n.natAbs
  ⟨d.sign (n < 0), body, true⟩

/-- A floating-point number in one of its forms. As a text it has the form with so many digits in
all, and always a point or an exponent. -/
def Directive.float (d : Directive) (x : Float) : Written :=
  let places := d.precision?.getD 6
  let kind := d.kind.toLower
  if x.isNaN then ⟨[], "nan".toList, true⟩
  else
    let body :=
      if x.isInf then "inf".toList
      else if kind == 'e' then Number.exponentText (d.has '#') places x
      else if kind == 'f' then Number.fixedText (d.has '#') places x
      else
        let text := Number.generalText (d.has '#') places x
        if kind == 's' && text.all Char.isDigit then text ++ ['.', '0'] else text
    ⟨d.sign (Nat.pow 2 63 ≤ x.toBits.toNat), body, true⟩

/-- The character that a value stands for. -/
def asChar? : Value → Option Char
  | .text s _ => match s.toList with
    | [c] => some c
    | _ => none
  | v => v.asInteger?.bind fun n =>
    if 0 ≤ n && n.toNat.isValidChar then some (Char.ofNat n.toNat) else none

/-- An argument as a text. The precision cuts off what is neither a number nor a truth value. -/
def Directive.text (d : Directive) (v : Value) : Written :=
  let text := v.display.toList
  match v with
  | .boolean _ => ⟨[], text, false⟩
  | .integer n => d.integer 10 [] n
  | .float x => d.float x
  | .lowest => d.float Number.notANumber
  | _ => ⟨[], (d.precision?.map text.take).getD text, false⟩

def Written.inCapitals (w : Written) : Written := { w with body := w.body.map Char.toUpper }

/-- The argument as the directive writes it. In a safe text it is escaped, and no character. -/
def Directive.written? (d : Directive) (safe : Bool) (v : Value) : Option Written :=
  match d.kind with
  | 's' => some (d.text (if safe then .ofText (escapedDisplay v) else v))
  | 'c' => if safe then none else (asChar? v).map fun c => ⟨[], [c], false⟩
  | 'd' | 'i' => v.asInteger?.map (d.integer 10 [])
  | 'o' => v.asInteger?.map (d.integer 8 ['0', 'o'])
  | 'x' => v.asInteger?.map (d.integer 16 ['0', 'x'])
  | 'X' => v.asInteger?.map fun n => (d.integer 16 ['0', 'X'] n).inCapitals
  | kind =>
    let written? := (v.asInteger?.map d.integerAsFloat).orElse fun _ => v.asFloat?.map d.float
    if kind.isUpper then written?.map Written.inCapitals else written?

/-! ## The filter -/

/-- Takes the first of the arguments that are left. -/
def nextArgument : StateT (List Value) (Except Fault) Value := do
  match ← get with
  | [] => throw (.unfit "format")
  | v :: rest =>
    set rest
    return v

/-- What a piece comes to. -/
def pieceText (safe : Bool) (entries : List (Value × Value)) :
    Piece → StateT (List Value) (Except Fault) (List Char)
  | .char c => return [c]
  | .directive d => do
    let v ← match d.name? with
      | none => nextArgument
      | some name =>
        match Value.lookup? (.ofText name) entries with
        | none | some (.undefined _) => throw (.unfit "format")
        | some v => pure v
    match d.written? safe v with
    | some w => return d.toWidth w
    | none => throw (.unfit "format")

/-- Arguments stand for directives one by one, or the entries of the first one under their names.
More of them than needed do not matter. -/
def format (_ : Rules) (v : Value) (a : Arguments) : Outcome := do
  match v with
  | .text source safe =>
    let entries := (a.all.head?.bind Value.entries?).getD []
    match formatPieces? (source.length + 1) source.toList with
    | none => throw (.unfit "format")
    | some pieces =>
      let texts ← (pieces.mapM (pieceText safe entries)).run' a.all
      return .text (.ofList texts.flatten) safe
  | _ => throw (.unfit "format")

end TagWeave.Template.Filter
