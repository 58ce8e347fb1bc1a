import LayerAtlas.Ascending
import LayerAtlas.Text.Numeral

namespace LayerAtlas

open Text

class Document (ν : Type) where
  asText : ν → Option String
  asBool : ν → Option Bool
  asNat (most : Nat) : ν → Option Nat
  asInt (least most : Int) : ν → Option Int
  asFloat : ν → Option Float
  asChoice : ν → Option String
  isNothing : ν → Option Bool
  items : ν → Option (List ν)
  members : ν → Option (List (String × ν))
  /-- The values of a record that is written as a list of its fields. -/
  fields : ν → Option (List ν)

namespace Document

variable {ν α : Type} [Document ν]

def asInt32 : ν → Option Int := asInt (-maxInt32 - 1) maxInt32

def asInt64 : ν → Option Int := asInt (-maxInt64 - 1) maxInt64

def asNat32 : ν → Option Nat := asNat maxNat32

def asNat64 : ν → Option Nat := asNat maxNat64

def asList (read : ν → Option α) (node : ν) : Option (List α) :=
  (items node).bind (List.mapM read)

def asOption (read : ν → Option α) (node : ν) : Option (Option α) := do
  if ← isNothing node then some none else (read node).map some

/-- Values by keys, each key counting with its last value. -/
def asMap (read : ν → Option α) (node : ν) : Option (List (String × α)) := do
  let ms ← (← members node).mapM fun (key, value) => (read value).map (key, ·)
  some ((Ascending.ofList (ms.map Prod.fst)).filterMap fun key =>
    ms.reverse.find? fun m => m.1 = key)

end Document

inductive Record (ν : Type) where
  | named (members : List (String × ν))
  | positional (items : List ν)

inductive Slot (ν : Type) where
  | given (node : ν)
  /-- The record has no member of this name. -/
  | omitted
  /-- The record ends before this field. -/
  | cut

namespace Record

variable {ν : Type}

def ofNode? [Document ν] (arity : Nat) (node : ν) : Option (Record ν) :=
  match Document.members node with
  | some members => some (named members)
  | none => ((Document.fields node).filter fun items => items.length ≤ arity).map positional

/-- The field at a place of the record that goes by one of some names; it may not be given
twice. -/
def slot (record : Record ν) (place : Nat) (names : List String) : Option (Slot ν) :=
  match record with
  | named members =>
    match members.filter fun m => names.elem m.1 with
    | [] => some .omitted
    | [m] => some (.given m.2)
    | _ => none
  | positional items => some (match items[place]? with
    | some node => .given node
    | none => .cut)

end Record

namespace Slot

variable {ν α : Type}

def required (read : ν → Option α) : Slot ν → Option α
  | given node => read node
  | _ => none

def orElse (fallback : α) (read : ν → Option α) : Slot ν → Option α
  | given node => read node
  | _ => some fallback

def optional [Document ν] (read : ν → Option α) : Slot ν → Option (Option α)
  | given node => Document.asOption read node
  | omitted => some none
  | cut => none

end Slot

end LayerAtlas
