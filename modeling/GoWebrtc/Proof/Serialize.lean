import GoWebrtc.Construction.Ice
import GoWebrtc.Construction.Sdp

/-!
What the deserializers do with a received text.
-/

namespace GoWebrtc

open GoRuntime Json BinaryFloat

/-- `Unmarshal` of a serialized candidate is the map of its three members, the index through
`ParseFloat`. -/
theorem unmarshalMap_iceCandidate_serialize {candidate : IceCandidate} {index : Binary}
    (parsed : parseFloat (formatInt candidate.sdpMLineIndex.toInt) = some index) :
    unmarshalMap candidate.serialize = .ok (some (toMap [("candidate".toList, .string candidate.candidate),
      ("sdpMid".toList, .string candidate.sdpMid), ("sdpMLineIndex".toList, .float64 index)])) := by
  have decoded : decodeMembers [("candidate".toList, .string candidate.candidate),
      ("sdpMid".toList, .string candidate.sdpMid),
      ("sdpMLineIndex".toList, .number (formatInt candidate.sdpMLineIndex.toInt))] =
      .ok [("candidate".toList, .string candidate.candidate), ("sdpMid".toList, .string candidate.sdpMid),
        ("sdpMLineIndex".toList, .float64 index)] := by
    simp only [decodeMembers, decodeInterface, parsed]
    rfl
  rw [IceCandidate.serialize, unmarshalMap_of_object (parse_encodeObject _)]
  simp only [List.map, Field.name, Field.value, decoded]
  rfl

/-- A candidate whose index a `float64` holds exactly is read back whole. -/
theorem deserializeIceCandidate_serialize {candidate : IceCandidate}
    (small : candidate.sdpMLineIndex.toInt.natAbs ≤ 2 ^ 53) :
    deserializeIceCandidate candidate.serialize = .ok (some candidate) := by
  obtain ⟨index, parsed, truncated⟩ := Option.map_eq_some_iff.mp (parseFloat_formatInt_truncate small)
  have distinct : ([("candidate".toList, GoValue.string candidate.candidate),
      ("sdpMid".toList, GoValue.string candidate.sdpMid),
      ("sdpMLineIndex".toList, GoValue.float64 index)].map Prod.fst).Nodup := by
    simp
  have candidateRead := lookup_toMap_of_mem distinct
    (show ("candidate".toList, GoValue.string candidate.candidate) ∈ _ by simp)
  have sdpMidRead := lookup_toMap_of_mem distinct
    (show ("sdpMid".toList, GoValue.string candidate.sdpMid) ∈ _ by simp)
  have indexRead := lookup_toMap_of_mem distinct
    (show ("sdpMLineIndex".toList, GoValue.float64 index) ∈ _ by simp)
  rw [deserializeIceCandidate, unmarshalMap_iceCandidate_serialize parsed]
  simp only [lookup, Option.bind_some, candidateRead, sdpMidRead, indexRead]
  simp only [assertString, assertFloat64]
  show Except.ok (some (IceCandidate.mk candidate.candidate candidate.sdpMid (intOfFloat64 index))) = _
  rw [intOfFloat64_of_truncate truncated]

theorem unmarshalMap_sessionDescription_serialize (desc : SessionDescription) :
    unmarshalMap desc.serialize =
      .ok (some (toMap [("type".toList, .string desc.type), ("sdp".toList, .string desc.sdp)])) := by
  rw [SessionDescription.serialize, unmarshalMap_of_object (parse_encodeObject _)]
  rfl

/-- Every session description is read back whole. -/
theorem deserializeSessionDescription_serialize (desc : SessionDescription) :
    deserializeSessionDescription desc.serialize = .ok (some desc) := by
  have distinct : ([("type".toList, GoValue.string desc.type), ("sdp".toList, GoValue.string desc.sdp)].map
      Prod.fst).Nodup := by
    simp
  have typeRead := lookup_toMap_of_mem distinct (show ("type".toList, GoValue.string desc.type) ∈ _ by simp)
  have sdpRead := lookup_toMap_of_mem distinct (show ("sdp".toList, GoValue.string desc.sdp) ∈ _ by simp)
  rw [deserializeSessionDescription, unmarshalMap_sessionDescription_serialize]
  simp only [lookup, Option.bind_some, typeRead, sdpRead]
  rfl

/-- `Serialize` then `Deserialize` gives back the value: every session description, and every
candidate whose m-line index is at most `2 ^ 53` in magnitude. -/
theorem deserialize_serialize_roundTrip (candidate : IceCandidate)
    (small : candidate.sdpMLineIndex.toInt.natAbs ≤ 2 ^ 53) (desc : SessionDescription) :
    deserializeIceCandidate candidate.serialize = .ok (some candidate) ∧
      deserializeSessionDescription desc.serialize = .ok (some desc) :=
  ⟨deserializeIceCandidate_serialize small, deserializeSessionDescription_serialize desc⟩

/-- The values of the repository's round-trip tests. -/
theorem deserialize_serialize_roundTrip_tests :
    (IceCandidate.sdpMLineIndex ⟨"totally fake".toList, "fabricated".toList, 1337⟩).toInt.natAbs ≤ 2 ^ 53 ∧
      deserializeIceCandidate (IceCandidate.serialize ⟨"totally fake".toList, "fabricated".toList, 1337⟩) =
        .ok (some ⟨"totally fake".toList, "fabricated".toList, 1337⟩) ∧
      deserializeSessionDescription (SessionDescription.serialize ⟨"pranswer".toList, "not real".toList⟩) =
        .ok (some ⟨"pranswer".toList, "not real".toList⟩) :=
  ⟨by decide, deserialize_serialize_roundTrip ⟨"totally fake".toList, "fabricated".toList, 1337⟩ (by decide)
    ⟨"pranswer".toList, "not real".toList⟩⟩

/-- Past `2 ^ 53` a `float64` no longer holds every integer: the index `2 ^ 53 + 1` is written
exactly and read back as `2 ^ 53`. -/
theorem deserializeIceCandidate_roundsIndex :
    deserializeIceCandidate (IceCandidate.serialize ⟨"totally fake".toList, "fabricated".toList, 9007199254740993⟩) =
      .ok (some ⟨"totally fake".toList, "fabricated".toList, 9007199254740992⟩) := by
  decide +kernel

/-- A `null` member makes the type assertion panic, and an index of `1e400` makes the candidate
nil. -/
theorem deserialize_nullMember_panics :
    deserializeSessionDescription "\x7b\"type\":null,\"sdp\":\"x\"\x7d".toList = .error .typeAssertion ∧
      deserializeIceCandidate "\x7b\"candidate\":\"a\",\"sdpMid\":null,\"sdpMLineIndex\":0\x7d".toList =
        .error .typeAssertion ∧
      deserializeIceCandidate "\x7b\"candidate\":\"a\",\"sdpMid\":\"0\",\"sdpMLineIndex\":1e400\x7d".toList =
        .ok none := by
  refine ⟨?_, ?_, ?_⟩ <;> decide +kernel

/-- `DeserializeSessionDescription` of any text, stated on the JSON it holds. -/
theorem deserializeSessionDescription_spec (msg : List Char) :
    deserializeSessionDescription msg =
      match unmarshalledObject msg with
      | none => .ok none
      | some members =>
          match lastMember members "type".toList, lastMember members "sdp".toList with
          | some sdpType, some sdp =>
              match sdpType.stringValue, sdp.stringValue with
              | some sdpType, some sdp => .ok (some ⟨sdpType, sdp⟩)
              | _, _ => .error .typeAssertion
          | _, _ => .ok none := by
  rcases unmarshalMap_cases msg with ⟨members, decoded, object, ok, unmarshalled⟩ | ⟨object, misses⟩
  · rw [deserializeSessionDescription, unmarshalled, object]
    dsimp only
    have typeRelated := lookup_unmarshalled ok "type".toList
    have sdpRelated := lookup_unmarshalled ok "sdp".toList
    generalize lastMember members "type".toList = typeMember at typeRelated ⊢
    generalize lookup (some (toMap decoded)) "type".toList = typeStored at typeRelated ⊢
    generalize lastMember members "sdp".toList = sdpMember at sdpRelated ⊢
    generalize lookup (some (toMap decoded)) "sdp".toList = sdpStored at sdpRelated ⊢
    cases typeRelated with
    | none => rfl
    | @some typeValue _ typeOk =>
        cases sdpRelated with
        | none => rfl
        | @some sdpValue _ sdpOk =>
            simp only [assertString_of_decodeInterface typeOk, assertString_of_decodeInterface sdpOk]
            cases typeValue.stringValue with
            | none => rfl
            | some typeText => cases sdpValue.stringValue <;> rfl
  · rw [deserializeSessionDescription, object]
    cases unmarshalled : unmarshalMap msg with
    | error fault => rfl
    | ok parsed =>
        simp only [misses parsed _ unmarshalled]
        rfl

/-- `DeserializeIceCandidate` of any text, stated on the JSON it holds. -/
theorem deserializeIceCandidate_spec (msg : List Char) :
    deserializeIceCandidate msg =
      match unmarshalledObject msg with
      | none => .ok none
      | some members =>
          match lastMember members "candidate".toList, lastMember members "sdpMid".toList,
            lastMember members "sdpMLineIndex".toList with
          | some candidate, some sdpMid, some sdpMLineIndex =>
              match candidate.stringValue, sdpMid.stringValue, sdpMLineIndex.numberLiteral.bind parseFloat with
              | some candidate, some sdpMid, some index => .ok (some ⟨candidate, sdpMid, intOfFloat64 index⟩)
              | _, _, _ => .error .typeAssertion
          | _, _, _ => .ok none := by
  rcases unmarshalMap_cases msg with ⟨members, decoded, object, ok, unmarshalled⟩ | ⟨object, misses⟩
  · rw [deserializeIceCandidate, unmarshalled, object]
    dsimp only
    have candidateRelated := lookup_unmarshalled ok "candidate".toList
    have sdpMidRelated := lookup_unmarshalled ok "sdpMid".toList
    have indexRelated := lookup_unmarshalled ok "sdpMLineIndex".toList
    generalize lastMember members "candidate".toList = candidateMember at candidateRelated ⊢
    generalize lookup (some (toMap decoded)) "candidate".toList = candidateStored at candidateRelated ⊢
    generalize lastMember members "sdpMid".toList = sdpMidMember at sdpMidRelated ⊢
    generalize lookup (some (toMap decoded)) "sdpMid".toList = sdpMidStored at sdpMidRelated ⊢
    generalize lastMember members "sdpMLineIndex".toList = indexMember at indexRelated ⊢
    generalize lookup (some (toMap decoded)) "sdpMLineIndex".toList = indexStored at indexRelated ⊢
    cases candidateRelated with
    | none => rfl
    | @some candidateValue _ candidateOk =>
        cases sdpMidRelated with
        | none => rfl
        | @some sdpMidValue _ sdpMidOk =>
            cases indexRelated with
            | none => rfl
            | @some indexValue _ indexOk =>
                simp only [assertString_of_decodeInterface candidateOk, assertString_of_decodeInterface sdpMidOk,
                  assertFloat64_of_decodeInterface indexOk]
                -- the assertions, in the order of the source, panic at the first member of another type
                cases candidateValue.stringValue with
                | none => rfl
                | some candidateText =>
                    cases sdpMidValue.stringValue with
                    | none => rfl
                    | some sdpMidText => cases indexValue.numberLiteral.bind parseFloat <;> rfl
  · rw [deserializeIceCandidate, object]
    cases unmarshalled : unmarshalMap msg with
    | error fault => rfl
    | ok parsed =>
        simp only [misses parsed _ unmarshalled]
        rfl

end GoWebrtc
