import GoWebrtc.Go.Basic
import GoWebrtc.Json.Decode

/-!
`SessionDescription` from `sdp.go` and its JSON text.
-/

namespace GoWebrtc

open GoRuntime Json

/-- A WebRTC session description: its type and the SDP text. -/
structure SessionDescription where
  type : List Char
  sdp : List Char
  deriving DecidableEq, Repr

/-- The types `NewSessionDescription` accepts (`SdpTypes`). -/
def sdpTypes : List (List Char) := ["offer".toList, "pranswer".toList, "answer".toList, "rollback".toList]

/-- `NewSessionDescription` wraps the serialized SDP when the type is one of `SdpTypes`. -/
def newSessionDescription (sdpType serializedSDP : List Char) : Option SessionDescription :=
  if sdpType ∈ sdpTypes then some ⟨sdpType, serializedSDP⟩ else none

theorem newSessionDescription_offer (serializedSDP : List Char) :
    newSessionDescription "offer".toList serializedSDP = some ⟨"offer".toList, serializedSDP⟩ := by
  simp [newSessionDescription, sdpTypes]

theorem newSessionDescription_answer (serializedSDP : List Char) :
    newSessionDescription "answer".toList serializedSDP = some ⟨"answer".toList, serializedSDP⟩ := by
  simp [newSessionDescription, sdpTypes]

/-- `SessionDescription.Serialize`: the members under the struct's tags, in field order. -/
def SessionDescription.serialize (desc : SessionDescription) : List Char :=
  encodeObject [.string "type".toList desc.type, .string "sdp".toList desc.sdp]

/-- `DeserializeSessionDescription`: nil when `Unmarshal` fails or a member is missing, else both
members through `.(string)`. -/
def deserializeSessionDescription (msg : List Char) : Except Panic (Option SessionDescription) :=
  match unmarshalMap msg with
  | .error _ => pure none
  | .ok parsed =>
      match lookup parsed "type".toList, lookup parsed "sdp".toList with
      | some sdpType, some sdp => do
          let sdpType ← assertString sdpType
          let sdp ← assertString sdp
          return some ⟨sdpType, sdp⟩
      | _, _ => pure none

end GoWebrtc
