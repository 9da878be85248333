import GoWebrtc.Json.Encode

/-!
The `String` methods of the enumerations, each through `EnumToStringSafe`.
-/

namespace GoWebrtc

/-- `EnumToStringSafe(value, valueStrings)`: the name at `value` when there is one, otherwise the
integer as `strconv.Itoa` writes it. -/
def enumToStringSafe (value : Int64) (valueStrings : List (List Char)) : List Char :=
  if 0 ≤ value.toInt ∧ value.toInt < valueStrings.length then valueStrings.getD value.toInt.toNat []
  else Json.formatInt value.toInt

def PeerConnectionState.string (s : Int64) : List Char :=
  enumToStringSafe s ["New".toList, "Connecting".toList, "Connected".toList, "Disconnected".toList, "Failed".toList]

def IceConnectionState.string (s : Int64) : List Char :=
  enumToStringSafe s ["New".toList, "Checking".toList, "Connected".toList, "Completed".toList, "Failed".toList,
    "Disconnected".toList, "Closed".toList]

def IceGatheringState.string (s : Int64) : List Char :=
  enumToStringSafe s ["New".toList, "Gathering".toList, "Complete".toList]

def BundlePolicy.string (p : Int64) : List Char :=
  enumToStringSafe p ["Balanced".toList, "MaxBundle".toList, "MaxCompat".toList]

def IceTransportPolicy.string (p : Int64) : List Char :=
  enumToStringSafe p ["None".toList, "Relay".toList, "NoHost".toList, "All".toList]

def SignalingState.string (s : Int64) : List Char :=
  enumToStringSafe s ["Stable".toList, "HaveLocalOffer".toList, "HaveLocalPrAnswer".toList, "HaveRemoteOffer".toList,
    "HaveRemotePrAnswer".toList, "Closed".toList]

def DataState.string (s : Int64) : List Char :=
  enumToStringSafe s ["Connecting".toList, "Open".toList, "Closing".toList, "Closed".toList]

def IceProtocol.string (p : Int64) : List Char :=
  enumToStringSafe p ["udp".toList, "tcp".toList]

def IceCandidateType.string (t : Int64) : List Char :=
  enumToStringSafe t ["host".toList, "srflx".toList, "prflx".toList, "relay".toList]

def IceTcpCandidateType.string (t : Int64) : List Char :=
  enumToStringSafe t ["active".toList, "passive".toList, "so".toList]

end GoWebrtc
