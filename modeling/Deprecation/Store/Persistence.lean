/-
# Keeping a store

A store is kept as a snapshot of its rules and entries; what follows from these is made anew
when the snapshot is restored.  Restoring replaces the store as a whole, or not at all.  The
ids of a snapshot have to differ and its patterns have to compile; its references to entries
are taken as they are.
-/
import Deprecation.Store.Change

namespace Deprecation

namespace Store

/-- What is written down of a store. -/
def contents (s : Store) : Contents :=
  ⟨s.statics, s.mined.values, s.entries.values⟩

/-- The snapshot of a store. -/
def snapshot (s : Store) : Snapshot := .ofContents s.contents

/-- The bytes of the snapshot of a store. -/
def persist (s : Store) : ByteArray := s.snapshot.encode

/-- The store that contents describe. -/
def ofContents (c : Contents) : Except StoreError Store := do
  let statics ← compileAll StaticRule.view (fun _ => none) [] c.statics
  let mined ← compileAll MinedRule.view (fun _ => none) (c.statics.map StaticRule.id) c.mined
  let fresh := empty.replaceStatics statics c.entries
  .ok (mined.foldl (fun s r => s.putMined r.1 r.2) fresh).refresh

/-- The store that bytes describe. -/
def ofBytes (bytes : ByteArray) : Except StoreError Store :=
  match Snapshot.decode bytes with
  | .error e => .error (.corrupt e)
  | .ok snapshot => ofContents snapshot.contents

/-- Exchanges a store for the one that a medium holds, if it holds one.  Tells whether it
does. -/
def restore (s : Store) (held : Except MediumError (Option ByteArray)) :
    Except StoreError (Bool × Store) :=
  match held with
  | .error e => .error (.medium e)
  | .ok none => .ok (false, s)
  | .ok (some bytes) => (ofBytes bytes).map fun fresh => (true, fresh)

end Store

/-! ## A medium in memory -/

/-- A medium that keeps a snapshot in memory, or does not answer. -/
inductive Medium where
  | memory (held : Option ByteArray)
  | unavailable (reason : String)
deriving Inhabited

namespace Medium

/-- Keeps bytes in place of those before. -/
def save (bytes : ByteArray) : Medium → Except MediumError Medium
  | memory _ => .ok (memory (some bytes))
  | unavailable reason => .error (.unavailable reason)

/-- The bytes that were kept last. -/
def load : Medium → Except MediumError (Option ByteArray)
  | memory held => .ok held
  | unavailable reason => .error (.unavailable reason)

end Medium

end Deprecation
