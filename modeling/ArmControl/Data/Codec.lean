import ArmControl.Data.Tree
import ArmControl.Duration.Basic

/-!
# Codecs

A `Codec α` writes values of type `α` as trees and reads them back. Codecs of records are put
together from their `Fields`, which also read the plain list of the field values. A value with
variants is written as the name of the variant, or as a record with the one entry `name: payload`.
-/

namespace ArmControl

/-- A way to write values as trees, and to read them back. -/
structure Codec (α : Type) where
  encode : α → Tree
  decode : Tree → Option α

namespace Codec

variable {α β : Type}

/-- The same trees for another type. -/
def map (c : Codec α) (forth : α → β) (back : β → α) : Codec β where
  encode b := c.encode (back b)
  decode t := (c.decode t).map forth

/-- Truth values. -/
def bool : Codec Bool where
  encode := .bool
  decode
    | .bool b => some b
    | _ => none

/-- Texts. -/
def text : Codec String where
  encode := .text
  decode
    | .text s => some s
    | _ => none

/-- Floats; a whole number is read as the nearest float. -/
def float : Codec Float where
  encode := .float
  decode
    | .float x => some x
    | .int i => some (Float.ofInt i)
    | _ => none

/-- Numbers of 64 bits. -/
def word64 : Codec UInt64 where
  encode n := .int n.toNat
  decode
    | .int (.ofNat n) => if n < UInt64.size then some (UInt64.ofNat n) else none
    | _ => none

/-- Signed numbers of 32 bits. -/
def int32 : Codec Int32 where
  encode n := .int n.toInt
  decode
    | .int i =>
        if Int32.minValue.toInt ≤ i ∧ i ≤ Int32.maxValue.toInt then some (Int32.ofInt i) else none
    | _ => none

/-- Lists of exactly `n` values. -/
def vector (n : Nat) (c : Codec α) : Codec (Vector α n) where
  encode v := .list (v.toList.map c.encode)
  decode
    | .list items => do
        let values ← items.mapM c.decode
        if h : values.length = n then some ⟨values.toArray, by simpa using h⟩ else none
    | _ => none

/-- A value or nothing, written as null. -/
def optional (c : Codec α) : Codec (Option α) where
  encode
    | some a => c.encode a
    | none => .null
  decode
    | .null => some none
    | t => (c.decode t).map some

/-- One of the values in `all`, written as its name. -/
def named (all : List α) (name : α → String) : Codec α where
  encode a := .text (name a)
  decode
    | .text s => all.find? fun a => name a == s
    | .record [(s, .null)] => all.find? fun a => name a == s
    | _ => none

/-- A value with variants: `write` gives the name of the variant and its payload, if it has one,
and `read` takes them. A variant without payload may also be given a null. -/
def tagged (write : α → String × Option Tree) (read : String → Option Tree → Option α) :
    Codec α where
  encode a :=
    match write a with
    | (name, none) => .text name
    | (name, some payload) => .record [(name, payload)]
  decode
    | .text name => read name none
    | .record [(name, .null)] => read name none <|> read name (some .null)
    | .record [(name, payload)] => read name (some payload)
    | _ => none

end Codec

/-- What it means that a field is absent: an error; a value, but only in a record; or a value, in
a record and at the end of a list. -/
inductive Absence (α : Type)
  | refused
  | optional (value : α)
  | defaulted (value : α)

namespace Absence

variable {α : Type}

/-- The value of a field that a record lacks. -/
def inRecord : Absence α → Option α
  | refused => none
  | optional value => some value
  | defaulted value => some value

/-- The value of a field that a list is too short for. -/
def inList : Absence α → Option α
  | refused => none
  | optional _ => none
  | defaulted value => some value

end Absence

/-- The fields of a record, in their order. -/
inductive Fields : Type → Type 1
  | nil : Fields Unit
  | cons {α β : Type} (name : String) (codec : Codec α) (absence : Absence α) (rest : Fields β) :
      Fields (α × β)

namespace Fields

/-- The entries of a record. -/
def encode : {γ : Type} → Fields γ → γ → List (String × Tree)
  | _, nil, _ => []
  | _, cons name codec _ rest, (a, b) => (name, codec.encode a) :: rest.encode b

/-- Reads the entries of a record in any order; entries of other names are passed over. -/
def ofRecord (entries : List (String × Tree)) : {γ : Type} → Fields γ → Option γ
  | _, nil => some ()
  | _, cons name codec absence rest => do
      let a ← match entries.lookup name with
        | some t => codec.decode t
        | none => absence.inRecord
      let b ← ofRecord entries rest
      some (a, b)

/-- Reads a list of the field values in their order. -/
def ofList : {γ : Type} → Fields γ → List Tree → Option γ
  | _, nil, [] => some ()
  | _, nil, _ :: _ => none
  | _, cons _ codec _ rest, t :: items => do
      let a ← codec.decode t
      let b ← rest.ofList items
      some (a, b)
  | _, cons _ _ absence rest, [] => do
      let a ← absence.inList
      let b ← rest.ofList []
      some (a, b)

/-- Reads a record, or a list of the field values. -/
def decode {γ : Type} (f : Fields γ) : Tree → Option γ
  | .record entries => f.ofRecord entries
  | .list items => f.ofList items
  | _ => none

/-- A record as a codec. -/
def codec {γ : Type} (f : Fields γ) : Codec γ := ⟨fun c => .record (f.encode c), f.decode⟩

/-- A record as a codec that does not read the list of the field values. -/
def recordCodec {γ : Type} (f : Fields γ) : Codec γ where
  encode c := .record (f.encode c)
  decode
    | .record entries => f.ofRecord entries
    | _ => none

/-- A field that has to be there. -/
def field {α β : Type} (name : String) (codec : Codec α) (rest : Fields β) : Fields (α × β) :=
  cons name codec .refused rest

/-- A field that may hold nothing and then may be left out of a record. -/
def optionalField {α β : Type} (name : String) (codec : Codec α) (rest : Fields β) :
    Fields (Option α × β) :=
  cons name codec.optional (.optional none) rest

/-- A field that may be left out. -/
def defaultedField {α β : Type} (name : String) (codec : Codec α) (value : α)
    (rest : Fields β) : Fields (α × β) :=
  cons name codec (.defaulted value) rest

end Fields

namespace Duration

/-- The duration of so many seconds and nanoseconds, if there is one. -/
def ofParts? (secs : UInt64) (nanos : UInt32) : Option Duration :=
  ofNanos? (secs.toNat * 1000000000 + nanos.toNat)

/-- Nanoseconds, as a number of 32 bits. -/
def decodeNanos : Tree → Option UInt32
  | .int (.ofNat n) => if n < UInt32.size then some (UInt32.ofNat n) else none
  | _ => none

/-- Reads a duration from its two parts. -/
def decodeParts (secs nanos : Tree) : Option Duration := do
  ofParts? (← Codec.word64.decode secs) (← decodeNanos nanos)

/-- A duration is written as seconds and nanoseconds; no other entry is allowed beside them. More
than a second of nanoseconds is carried over. -/
def codec : Codec Duration where
  encode d := .record [("secs", .int d.secs), ("nanos", .int d.subsecNanos)]
  decode
    | .record [("secs", secs), ("nanos", nanos)] => decodeParts secs nanos
    | .record [("nanos", nanos), ("secs", secs)] => decodeParts secs nanos
    | .list [secs, nanos] => decodeParts secs nanos
    | _ => none

end Duration

end ArmControl
