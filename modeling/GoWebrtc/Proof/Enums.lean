import GoWebrtc.Construction.Enums
import GoWebrtc.Construction.PeerCallbacks

/-!
`EnumToStringSafe` gives distinct values distinct texts.
-/

namespace GoWebrtc

/-- A value inside the names prints as the name at its place. -/
theorem enumToStringSafe_of_lt {value : Int64} {valueStrings : List (List Char)} (low : 0 ≤ value.toInt)
    (inside : value.toInt.toNat < valueStrings.length) :
    enumToStringSafe value valueStrings = valueStrings[value.toInt.toNat] := by
  rw [enumToStringSafe, if_pos ⟨low, by omega⟩, List.getD_eq_getElem]

/-- A list of names with no two alike, none of them written like an integer, prints every value
differently. -/
theorem enumToStringSafe_injective {valueStrings : List (List Char)} (distinct : valueStrings.Nodup)
    (named : ∀ name ∈ valueStrings, name.any (fun c => c != '-' && !c.isDigit) = true) :
    Function.Injective fun value => enumToStringSafe value valueStrings := by
  -- a name is never the decimal form of an integer
  have apart : ∀ (name : List Char) (value : Int), name ∈ valueStrings → name ≠ Json.formatInt value := by
    intro name value member same
    obtain ⟨c, inside, letter⟩ := List.any_eq_true.mp (named name member)
    rcases Json.mem_formatInt (same ▸ inside) with minus | digit <;> simp_all
  intro first second same
  simp only at same
  by_cases firstInside : 0 ≤ first.toInt ∧ first.toInt < valueStrings.length <;>
    by_cases secondInside : 0 ≤ second.toInt ∧ second.toInt < valueStrings.length
  · rw [enumToStringSafe_of_lt firstInside.1 (by omega), enumToStringSafe_of_lt secondInside.1 (by omega),
      distinct.getElem_inj_iff] at same
    apply Int64.toInt_inj.mp
    omega
  · rw [enumToStringSafe_of_lt firstInside.1 (by omega), enumToStringSafe, if_neg secondInside] at same
    exact absurd same (apart _ _ (List.getElem_mem _))
  · rw [enumToStringSafe, if_neg firstInside, enumToStringSafe_of_lt secondInside.1 (by omega)] at same
    exact absurd same.symm (apart _ _ (List.getElem_mem _))
  · rw [enumToStringSafe, if_neg firstInside, enumToStringSafe, if_neg secondInside] at same
    exact Int64.toInt_inj.mp (Json.formatInt_injective same)

/-- Each `String` method of the enumerations gives different values different texts. -/
theorem stringMethods_injective :
    Function.Injective PeerConnectionState.string ∧ Function.Injective IceConnectionState.string ∧
      Function.Injective IceGatheringState.string ∧ Function.Injective BundlePolicy.string ∧
      Function.Injective IceTransportPolicy.string ∧ Function.Injective SignalingState.string ∧
      Function.Injective DataState.string ∧ Function.Injective IceProtocol.string ∧
      Function.Injective IceCandidateType.string ∧ Function.Injective IceTcpCandidateType.string :=
  ⟨enumToStringSafe_injective (by decide) (by decide), enumToStringSafe_injective (by decide) (by decide),
    enumToStringSafe_injective (by decide) (by decide), enumToStringSafe_injective (by decide) (by decide),
    enumToStringSafe_injective (by decide) (by decide), enumToStringSafe_injective (by decide) (by decide),
    enumToStringSafe_injective (by decide) (by decide), enumToStringSafe_injective (by decide) (by decide),
    enumToStringSafe_injective (by decide) (by decide), enumToStringSafe_injective (by decide) (by decide)⟩

/-- `ConnectionState().String()` of a disconnected ICE connection is the number `5`. -/
example : PeerConnectionState.string (connectionState .disconnected) = "5".toList := by decide

end GoWebrtc
