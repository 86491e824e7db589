import Bandwidth.Proofs.Dot.Region
import Bandwidth.Proofs.Elementwise.Roles
import Bandwidth.Stream.Interface

/-!
# Streams as lists

What a stream is to do, without devices, grids or workers: each kernel is an equation between three
lists, and the dot product is a number that depends on two of them and on the number of groups. An
operation is a call that a client makes; it can be performed on any interface, and it has a meaning
on lists.
-/

namespace Bandwidth

inductive Operation (α : Type) where
  | fill (values : Triple α)
  | write (source : Triple (List α))
  | kernel (kernel : Kernel)
  | read (host : Triple (List α))

inductive Answer (α : Type) where
  | nothing
  /-- Only the dot product has a result. -/
  | result (value : Option α)
  | contents (lists : Triple (List α))

variable {α : Type} [Element α]

/-- The levels of the tree in the groups of a stream. -/
def standardLevels : Nat := 10

/-- The dot product of two lists by so many groups. -/
def Dot.listSum (blocks : Nat) (x y : List α) : α :=
  ((List.range blocks).map
    (Dot.groupSum standardLevels x y x.length ⟨blocks, standardGroup⟩)).foldl (· + ·) Element.zero

/-- What an elementwise kernel makes of three lists of one length. -/
def Elementwise.onLists (kernel : Elementwise α) (lists : Triple (List α)) : Triple (List α) :=
  match kernel with
  | .fill values => values.map (List.replicate lists.a.length)
  | .copy => { lists with c := lists.a }
  | .mul => { lists with b := lists.c.map fun c => Element.factor * c }
  | .add => { lists with c := List.zipWith (fun a b => a + b) lists.a lists.b }
  | .triad => { lists with a := List.zipWith (fun b c => b + Element.factor * c) lists.b lists.c }
  | .nstream =>
      { lists with
        a := List.zipWith (fun a sum => a + sum) lists.a
          (List.zipWith (fun b c => b + Element.factor * c) lists.b lists.c) }

/-- The elementwise kernel of a name; the dot product is none. -/
def Kernel.elementwise? : Kernel → Option (Elementwise α)
  | .copy => some .copy
  | .mul => some .mul
  | .add => some .add
  | .triad => some .triad
  | .nstream => some .nstream
  | .dot => none

/-- What a kernel makes of three lists; the dot product leaves them as they are. -/
def Kernel.onLists (kernel : Kernel) (lists : Triple (List α)) : Triple (List α) :=
  match kernel.elementwise? with
  | some elementwise => elementwise.onLists lists
  | none => lists

/-- The result of a kernel, for a stream that runs so many groups for a dot product. -/
def Kernel.resultOn (kernel : Kernel) (blocks : Nat) (lists : Triple (List α)) : Option α :=
  match kernel with
  | .dot => some (Dot.listSum blocks lists.a lists.b)
  | _ => none

namespace Operation

/-- Whether the lists of a call have a length. -/
def Sized (length : Nat) : Operation α → Prop
  | fill _ | kernel _ => True
  | write lists | read lists => lists.map List.length = ⟨length, length, length⟩

def onLists (operation : Operation α) (lists : Triple (List α)) : Triple (List α) :=
  match operation with
  | fill values => (Elementwise.fill values).onLists lists
  | write source => source
  | kernel named => named.onLists lists
  | read _ => lists

def answer (blocks : Nat) (operation : Operation α) (lists : Triple (List α)) : Answer α :=
  match operation with
  | fill _ | write _ => .nothing
  | kernel named => .result (named.resultOn blocks lists)
  | read _ => .contents lists

def listsAfter (operations : List (Operation α)) (lists : Triple (List α)) : Triple (List α) :=
  operations.foldl (fun lists operation => operation.onLists lists) lists

def answers (blocks : Nat) : List (Operation α) → Triple (List α) → List (Answer α)
  | [], _ => []
  | operation :: operations, lists =>
      operation.answer blocks lists :: answers blocks operations (operation.onLists lists)

variable {σ : Type}

omit [Element α] in
def perform (stream : Interface σ α) : Operation α → Procedure Abort σ (Answer α)
  | fill values => do
      stream.fill values
      return .nothing
  | write source => do
      stream.write (source.map List.toArray)
      return .nothing
  | kernel named => do
      let value ← stream.runKernel named
      return .result value
  | read host => do
      let arrays ← stream.readInto (host.map List.toArray)
      return .contents (arrays.map Array.toList)

omit [Element α] in
def performAll (stream : Interface σ α) (operations : List (Operation α)) :
    Procedure Abort σ (List (Answer α)) :=
  operations.mapM (perform stream)

end Operation

end Bandwidth
