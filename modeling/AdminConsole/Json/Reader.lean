import AdminConsole.Json.Token

/-!
# Reading a JSON text as a value of a known shape

A reader takes the words of a text from the left and reports the first fault it meets: the text is
`broken` when it leaves the JSON grammar at that place, and a `mismatch` when it is well-formed so
far but has not the wanted shape. What stands further right is never looked at.

A record is read from an object, in which fields may stand in any order and unknown ones are
passed over, or from an array of exactly its fields in order.
-/

namespace AdminConsole.Json

/-- Why a text is not read. -/
inductive ReadFault
  /-- It leaves the grammar. -/
  | broken
  /-- It has another shape. -/
  | mismatch
  deriving DecidableEq, Repr

/-- Reads a value off the front of the words. -/
abbrev Reader (α : Type) := List Token → Except ReadFault (α × List Token)

namespace Reader

/-- The fault of words that start with no value of the wanted kind: a value of another kind is a
mismatch, and anything else is no value. -/
def unwanted : List Token → ReadFault
  | .null :: _ => .mismatch
  | .bool _ :: _ => .mismatch
  | .number .excessive :: _ => .broken
  | .number _ :: _ => .mismatch
  | .str (some _) :: _ => .mismatch
  | .openBrace :: _ => .mismatch
  | .openBracket :: _ => .mismatch
  | _ => .broken

/-! ## Single values -/

/-- A string that can be read. -/
def text : Reader String
  | .str (some s) :: rest => .ok (s, rest)
  | ts => .error (unwanted ts)

/-- A truth value. -/
def bool : Reader Bool
  | .bool b :: rest => .ok (b, rest)
  | ts => .error (unwanted ts)

/-- A whole number below the bound. -/
def below (bound : Nat) : Reader Nat
  | .number (.whole n) :: rest =>
    if 0 ≤ n ∧ n < bound then .ok (n.toNat, rest) else .error .mismatch
  | ts => .error (unwanted ts)

/-- Null, or a value. -/
def optional {α : Type} (reader : Reader α) : Reader (Option α)
  | .null :: rest => .ok (none, rest)
  | ts => (reader ts).map fun (a, rest) => (some a, rest)

/-- A string that `decode` takes. -/
def decoded {α : Type} (decode : String → Option α) : Reader α
  | .str (some s) :: rest =>
    match decode s with
    | some a => .ok (a, rest)
    | none => .error .mismatch
  | ts => .error (unwanted ts)

/-- One of several tags: a string, or an object with the tag as its only field and null as that
field's value. No other value is taken for one even by mistake, so it breaks the text, and so does
an object whose first word is no string. -/
def tag {α : Type} (decode : String → Option α) : Reader α
  | .str (some s) :: rest =>
    match decode s with
    | some a => .ok (a, rest)
    | none => .error .mismatch
  | .openBrace :: .str (some s) :: rest =>
    match decode s with
    | none => .error .mismatch
    | some a =>
      match rest with
      | .colon :: .null :: .closeBrace :: rest => .ok (a, rest)
      | .colon :: .null :: _ => .error .broken
      | .colon :: ts => .error (unwanted ts)
      | _ => .error .broken
  | _ => .error .broken

/-! ## Passing over a value -/

/-- What may stand next inside a value that is passed over. -/
inductive Expect
  | value
  | firstItem
  | firstKey
  | key
  | colon
  | next
  deriving DecidableEq, Repr

/-- A bracket that is still open: of an array, or of an object. -/
inductive Bracket
  | array
  | object
  deriving DecidableEq, Repr

/-- What a word does to a value that is passed over. -/
inductive Passing
  /-- The value ends with the word. -/
  | done
  /-- The value goes on. -/
  | more (expect : Expect) (brackets : List Bracket)
  /-- The word does not belong there. -/
  | unexpected
  deriving DecidableEq, Repr

/-- A value ends, inside these open brackets. -/
def valueEnds : List Bracket → Passing
  | [] => .done
  | brackets => .more .next brackets

/-- The innermost bracket is closed. -/
def bracketCloses : List Bracket → Passing
  | [] => .unexpected
  | _ :: outer => valueEnds outer

/-- What a word does where a value is expected. A string need not be readable and a number need
not be a double. -/
def startsValue (brackets : List Bracket) : Token → Passing
  | .openBrace => .more .firstKey (.object :: brackets)
  | .openBracket => .more .firstItem (.array :: brackets)
  | .null | .bool _ | .number _ | .str _ => valueEnds brackets
  | _ => .unexpected

/-- What a word does to a value that is passed over. -/
def pass (expect : Expect) (brackets : List Bracket) (t : Token) : Passing :=
  match expect, t with
  | .value, t => startsValue brackets t
  | .firstItem, .closeBracket => bracketCloses brackets
  | .firstItem, t => startsValue brackets t
  | .firstKey, .closeBrace => bracketCloses brackets
  | .firstKey, .str _ | .key, .str _ => .more .colon brackets
  | .colon, .colon => .more .value brackets
  | .next, t =>
    match t, brackets with
    | .comma, .array :: _ => .more .value brackets
    | .comma, .object :: _ => .more .key brackets
    | .closeBracket, .array :: _ => bracketCloses brackets
    | .closeBrace, .object :: _ => bracketCloses brackets
    | _, _ => .unexpected
  | _, _ => .unexpected

/-- Passes over words until a value ends. -/
def skipFrom (expect : Expect) (brackets : List Bracket) :
    List Token → Except ReadFault (List Token)
  | [] => .error .broken
  | t :: rest =>
    match pass expect brackets t with
    | .done => .ok rest
    | .more expect brackets => skipFrom expect brackets rest
    | .unexpected => .error .broken

/-- Passes over one value. -/
def skip (ts : List Token) : Except ReadFault (List Token) := skipFrom .value [] ts

/-! ## Records -/

/-- A field of a record under construction: its name, and a reader of the change it makes. -/
structure Field (σ : Type) where
  name : String
  read : Reader (σ → σ)

/-- A field whose value is put by `set`. -/
def Field.of {σ α : Type} (name : String) (reader : Reader α) (set : α → σ → σ) : Field σ where
  name := name
  read ts := (reader ts).map fun (a, rest) => (set a, rest)

/-- The members of an object after its opening brace or a comma, up to and without the closing
brace. `seen` holds the known names met so far; a name met twice is a mismatch at once. -/
def members {σ : Type} (fields : List (Field σ)) :
    Nat → List String → σ → List Token → Except ReadFault (σ × List Token)
  | 0, _, _, _ => .error .broken
  | fuel + 1, seen, state, .str (some name) :: rest =>
    let continueWith (seen : List String) (state : σ) (ts : List Token) :
        Except ReadFault (σ × List Token) :=
      match ts with
      | .closeBrace :: _ => .ok (state, ts)
      | .comma :: more => members fields fuel seen state more
      | _ => .error .broken
    match fields.find? (·.name == name) with
    | some field =>
      if name ∈ seen then .error .mismatch
      else match rest with
        | .colon :: ts =>
          match field.read ts with
          | .ok (change, ts) => continueWith (name :: seen) (change state) ts
          | .error e => .error e
        | _ => .error .broken
    | none =>
      match rest with
      | .colon :: ts =>
        match skip ts with
        | .ok ts => continueWith seen state ts
        | .error e => .error e
      | _ => .error .broken
  | _ + 1, _, _, _ => .error .broken

/-- The items of an array after its opening bracket, one for each field, up to and without the
closing bracket. -/
def items {σ : Type} : List (Field σ) → Bool → σ → List Token →
    Except ReadFault (σ × List Token)
  | [], _, state, ts => .ok (state, ts)
  | field :: more, first, state, ts =>
    match first, ts with
    | _, .closeBracket :: _ => .error .mismatch
    | true, ts =>
      match field.read ts with
      | .ok (change, ts) => items more false (change state) ts
      | .error e => .error e
    | false, .comma :: ts =>
      match ts with
      | .closeBracket :: _ => .error .broken
      | _ =>
        match field.read ts with
        | .ok (change, ts) => items more false (change state) ts
        | .error e => .error e
    | false, _ => .error .broken

/-- A record: `start` before any field is read, and `finish` to see whether all that is needed was
there. -/
def record {σ α : Type} (fields : List (Field σ)) (start : σ) (finish : σ → Option α) : Reader α
  | .openBrace :: ts =>
    let read : Except ReadFault (σ × List Token) := match ts with
      | .closeBrace :: _ => .ok (start, ts)
      | _ => members fields ts.length [] start ts
    match read with
    | .error e => .error e
    | .ok (state, ts) =>
      match finish state with
      | none => .error .mismatch
      | some a =>
        match ts with
        | .closeBrace :: rest => .ok (a, rest)
        | _ => .error .broken
  | .openBracket :: ts =>
    match items fields true start ts with
    | .error e => .error e
    | .ok (state, ts) =>
      match finish state with
      | none => .error .mismatch
      | some a =>
        match ts with
        | .closeBracket :: rest => .ok (a, rest)
        | _ => .error .broken
  | ts => .error (unwanted ts)

/-- A whole text: one value and nothing after it. -/
def document {α : Type} (reader : Reader α) (ts : List Token) : Except ReadFault α :=
  match reader ts with
  | .error e => .error e
  | .ok (a, []) => .ok a
  | .ok (_, _ :: _) => .error .broken

end Reader

end AdminConsole.Json
