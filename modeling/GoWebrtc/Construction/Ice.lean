import GoWebrtc.Json.Decode

/-!
`IceCandidate` from `ice.go` and its JSON text.
-/

namespace GoWebrtc

open GoRuntime Json

/-- An ICE candidate: the candidate line, the media stream it belongs to and the index of its
m-line, a Go `int`. -/
structure IceCandidate where
  candidate : List Char
  sdpMid : List Char
  sdpMLineIndex : Int64
  deriving DecidableEq, Repr

/-- `IceCandidate.Serialize`: the members under the struct's tags, in field order. -/
def IceCandidate.serialize (candidate : IceCandidate) : List Char :=
  encodeObject [.string "candidate".toList candidate.candidate, .string "sdpMid".toList candidate.sdpMid,
    .int "sdpMLineIndex".toList candidate.sdpMLineIndex.toInt]

/-- `DeserializeIceCandidate`: nil (`none`) when `Unmarshal` fails or a member is missing,
otherwise the members through the type assertions, which panic on a member of another type. -/
def deserializeIceCandidate (msg : List Char) : Except Panic (Option IceCandidate) :=
  match unmarshalMap msg with
  | .error _ => pure none
  | .ok parsed =>
      match lookup parsed "candidate".toList, lookup parsed "sdpMid".toList,
        lookup parsed "sdpMLineIndex".toList with
      | some candidate, some sdpMid, some sdpMLineIndex => do
          let candidate ← assertString candidate
          let sdpMid ← assertString sdpMid
          let sdpMLineIndex ← assertFloat64 sdpMLineIndex
          return some ⟨candidate, sdpMid, intOfFloat64 sdpMLineIndex⟩
      | _, _, _ => pure none

end GoWebrtc
