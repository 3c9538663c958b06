import PulseProgram.CompileError

/-!
# The channels of a setup

Channels are registered one at a time and keep the order of their registration.
A name is an identifier and belongs to one channel; an address of a kind belongs
to one channel of that kind. Digital addresses are not limited, analog and
synthesizer addresses are.

A registration that breaks one of these rules is refused and leaves the map as it
was. Names are resolved here, so that encoding only ever sees addresses.
-/

namespace PulseProgram

/-- May begin an identifier: a letter without accent or an underscore. -/
def isNameStart (char : Char) : Bool :=
  ('A' ≤ char && char ≤ 'Z') || ('a' ≤ char && char ≤ 'z') || char = '_'

/-- May continue an identifier: what may begin one, or a digit. -/
def isNameChar (char : Char) : Bool :=
  isNameStart char || ('0' ≤ char && char ≤ '9')

/-- An identifier of unaccented letters, digits and underscores that does not
begin with a digit. -/
def isIdentifier (name : String) : Bool :=
  match name.toList with
  | [] => false
  | first :: rest => isNameStart first && rest.all isNameChar

/-- The number of addresses of a kind, where there is a limit. Digital addresses have none. -/
def ChannelKind.addressLimit : ChannelKind → Option Nat
  | .analog => some Channel.analogCount
  | .synth => some Channel.synthCount
  | .digital => none

/-- Registered channels in the order of their registration. That names and addresses belong to one
channel each is kept by registering and not by the type. -/
structure ChannelMap where
  channels : List Channel
deriving DecidableEq

namespace ChannelMap

/-- No channels, which is where a setup begins. -/
def empty : ChannelMap := ⟨[]⟩

/-- The names in the order of registration. -/
def names (map : ChannelMap) : List String := map.channels.map (·.name)

/-- The channel of a name, the earliest one if there could be several. -/
def get? (map : ChannelMap) (name : String) : Option Channel :=
  map.channels.find? (·.name = name)

/-- The channels of one kind in the order of registration. -/
def ofKind (map : ChannelMap) (kind : ChannelKind) : List Channel :=
  map.channels.filter (·.kind = kind)

/-- Adds a channel at the end. The name is checked for its form first, then for
being free; after that the address is checked for its limit, then for being
free. -/
def register (map : ChannelMap) (name : String) (kind : ChannelKind) (address : Nat) :
    Except CompileError ChannelMap :=
  if !isIdentifier name then .error (.invalidChannelName name)
  else if (map.get? name).isSome then .error (.channelAlreadyRegistered name)
  else
    match kind.addressLimit.filter (· ≤ address) with
    | some limit => .error (.invalidAddress name kind address limit)
    | none =>
      match map.channels.find? (fun channel => channel.kind = kind && channel.address = address) with
      | some owner => .error (.addressAlreadyRegistered name kind address owner.name)
      | none => .ok ⟨map.channels ++ [⟨name, kind, address⟩]⟩

/-- The channel of a name, which has to be of the expected kind. An unknown name is told together
with all that are registered. -/
def channel (map : ChannelMap) (name : String) (kind : ChannelKind) :
    Except CompileError Channel :=
  match map.get? name with
  | none => .error (.unknownChannel name map.names)
  | some found =>
    if found.kind = kind then .ok found
    else .error (.channelKindMismatch name kind found.kind)

/-- The address of a name, which has to be of the expected kind. That the address has an output is
not checked here again. -/
def resolve (map : ChannelMap) (name : String) (kind : ChannelKind) : Except CompileError Nat :=
  (map.channel name kind).map (·.address)

end ChannelMap

end PulseProgram
