import Rollout.Failure
import Rollout.SortedMap

/-!
# Contract registry

What a run knows of its contracts: for each role the code id of the code that was uploaded for it
and the address of the contract that was instantiated from that code. New code makes an address of
older code void, so recording a code id forgets the address.
-/

namespace Rollout

/-- What is known of the contract of one role. -/
structure ContractRecord where
  codeId : Option UInt64
  address : Option String
deriving DecidableEq, Inhabited

/-- The contracts of a run by role. -/
structure Registry where
  records : SortedMap ContractRecord
deriving DecidableEq, Inhabited

namespace ContractRecord

def none : ContractRecord := ⟨.none, .none⟩

def encode (r : ContractRecord) : Json :=
  .obj
    [("code_id", Json.ofOption (fun c => .int c.toNat) r.codeId),
      ("address", Json.ofOption .str r.address)]

def shape : Shape ContractRecord :=
  ((Shape.of ContractRecord.mk).nullable "code_id" Decode.uint64).nullable "address" Decode.text

end ContractRecord

namespace Registry

/-- The registry at the start of a run. -/
def empty : Registry := ⟨.empty⟩

def get? (r : Registry) (role : String) : Option ContractRecord := r.records.find? role

/-- Records uploaded code; the address instantiated from older code is forgotten. -/
def recordCode (r : Registry) (role : String) (codeId : UInt64) : Registry :=
  ⟨r.records.insert role ⟨some codeId, none⟩⟩

/-- Records the address of an instantiated contract. -/
def recordAddress (r : Registry) (role address : String) : Registry :=
  ⟨r.records.insert role ⟨((r.get? role).getD .none).codeId, some address⟩⟩

/-- The code id of a role. -/
def codeId (r : Registry) (role : String) : Except Failure UInt64 :=
  match (r.get? role).bind (·.codeId) with
  | some codeId => .ok codeId
  | none => .error (.configuration (.noCode role))

/-- The address of a role. -/
def address (r : Registry) (role : String) : Except Failure String :=
  match (r.get? role).bind (·.address) with
  | some address => .ok address
  | none => .error (.notInstantiated role)

/-- The roles in ascending order. -/
def roles (r : Registry) : List String := r.records.keys

def encode (r : Registry) : Json := .obj (r.records.entries.map fun e => (e.1, e.2.encode))

/-- Reads a registry: an object with a record for each role. -/
def decode : Decode Registry
  | .obj fields => do
    let entries ← fields.mapM fun f => return (f.1, ← ContractRecord.shape.decode f.2)
    return ⟨SortedMap.ofList entries⟩
  | _ => .error .mismatch

end Registry

end Rollout
