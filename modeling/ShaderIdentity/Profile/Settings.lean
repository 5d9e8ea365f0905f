import ShaderIdentity.Json.Decoder
import ShaderIdentity.Json.Printer
import ShaderIdentity.Profile.Basic

/-! The part of a profile that is written to documents. -/
namespace ShaderIdentity

structure Settings where
  activate : Bool
  flags : Flags
  watched : PerStage RegisterSet
  deriving DecidableEq

namespace Settings

/-- What an entry means that gives no field. -/
def unset : Settings := ⟨true, .empty, .both ∅⟩

def ofProfile (profile : Profile) : Settings :=
  ⟨profile.activated, profile.flags, profile.watched⟩

/-- The profile that the settings describe. What was learnt at run time is forgotten. -/
def toProfile (settings : Settings) : Profile :=
  ⟨settings.activate, settings.flags, settings.watched, false⟩

open Json Json.Decoder

def registers : Decoder RegisterSet :=
  (sequence word32).map fun registers => Std.ExtTreeSet.ofList registers

def fields : List (RecordField Settings) := [
  field "Activate" boolean fun settings activate => { settings with activate },
  field "ShaderFlags" word32 fun settings bits => { settings with flags := ⟨bits⟩ },
  field "ConstantVs" registers fun settings set =>
    { settings with watched := settings.watched.set .vertex set },
  field "ConstantPs" registers fun settings set =>
    { settings with watched := settings.watched.set .pixel set }]

def decoder : Decoder Settings :=
  record "struct ProfileRecord" fields unset

def registersValue (registers : RegisterSet) : Value :=
  .array (registers.toList.map fun register => .number (.integer register.toNat))

def toValue (settings : Settings) : Value :=
  .object [
    ("Activate", .boolean settings.activate),
    ("ShaderFlags", .number (.integer settings.flags.bits.toNat)),
    ("ConstantVs", registersValue settings.watched.vertex),
    ("ConstantPs", registersValue settings.watched.pixel)]

end Settings

end ShaderIdentity
