import GoWebrtc.Construction.Configuration

/-!
`NewIceServer` and `NewConfiguration` against the configuration the options ask for.
-/

namespace GoWebrtc

open GoStrings

/-- A URL piece is usable when, trimmed, it starts with `stun:` or `turn:`. -/
def usableUrl (piece : List Char) : Bool :=
  hasPrefix (trimSpace piece) "stun:".toList || hasPrefix (trimSpace piece) "turn:".toList

/-- The parameters of an ICE server are accepted when the first is not empty and every piece of
it, split at commas, is usable. -/
def accepted : List (List Char) → Bool
  | [] => false
  | urlList :: _ => urlList ≠ [] && (split urlList ',').all usableUrl

/-- The server accepted parameters describe: the trimmed pieces, then user name and credential. -/
def describedServer (params : List (List Char)) : Option IceServer :=
  match params with
  | [] => none
  | urlList :: _ =>
      if accepted params then
        some ⟨(split urlList ',').map trimSpace, (params[1]?).getD [], (params[2]?).getD []⟩
      else none

def transportPolicyOf : ConfigurationOption → Option Int64
  | .iceTransportPolicy policy => some policy
  | _ => none

def bundlePolicyOf : ConfigurationOption → Option Int64
  | .bundlePolicy policy => some policy
  | _ => none

def serverOf : ConfigurationOption → Option IceServer
  | .iceServer params => describedServer params
  | _ => none

/-- The configuration options describe: the accepted servers in option order, and the policy of
the last option of each kind over the defaults. -/
def describedConfiguration (options : List ConfigurationOption) : Configuration :=
  ⟨options.filterMap serverOf, ((options.filterMap transportPolicyOf).getLast?).getD iceTransportPolicyAll,
    ((options.filterMap bundlePolicyOf).getLast?).getD bundlePolicyBalanced, []⟩

/-- The loop's rejection test is the negation of usability. -/
theorem rejects_eq (piece : List Char) :
    (!hasPrefix (trimSpace piece) "stun:".toList && !hasPrefix (trimSpace piece) "turn:".toList) =
      !usableUrl piece := by
  unfold usableUrl
  cases hasPrefix (trimSpace piece) "stun:".toList <;> cases hasPrefix (trimSpace piece) "turn:".toList <;> rfl

/-- The loop trims the pieces one by one in place and stops at the first unusable one. -/
theorem checkUrls_toOption (done rest : List (List Char)) :
    (checkUrls (done.map trimSpace ++ rest) done.length rest).toOption =
      if rest.all usableUrl then some ((done ++ rest).map trimSpace) else none := by
  induction rest generalizing done with
  | nil => simp [checkUrls, Except.toOption]
  | cons url more ih =>
      simp only [checkUrls, rejects_eq, List.all_cons]
      by_cases usable : usableUrl url = true
      · have written : (done.map trimSpace ++ url :: more).set done.length (trimSpace url) =
            (done ++ [url]).map trimSpace ++ more := by
          rw [List.set_append_right _ _ (by simp)]
          simp
        have step := ih (done ++ [url])
        rw [List.length_append, List.length_singleton, ← written, List.append_assoc] at step
        simpa [usable] using step
      · simp [usable, Except.toOption]

/-- `NewIceServer` returns a server exactly for accepted parameters, and it is the one they describe. -/
theorem newIceServer_toOption (params : List (List Char)) :
    (newIceServer params).toOption = describedServer params := by
  cases params with
  | nil => rfl
  | cons urlList rest =>
      by_cases empty : urlList = []
      · subst empty
        rfl
      · have loop := checkUrls_toOption [] (split urlList ',')
        simp only [List.map_nil, List.nil_append, List.length_nil] at loop
        unfold newIceServer describedServer accepted
        simp only [empty, if_false]
        cases checked : checkUrls (split urlList ',') 0 (split urlList ',') with
        | error message =>
            rw [checked] at loop
            by_cases usable : (split urlList ',').all usableUrl = true
            · simp [usable, Except.toOption] at loop
            · simp [usable, Except.toOption]
        | ok urls =>
            rw [checked] at loop
            by_cases usable : (split urlList ',').all usableUrl = true
            · simp only [usable, if_true, Except.toOption, Option.some.injEq] at loop
              simp [usable, loop, empty, Except.toOption]
            · simp [usable, Except.toOption] at loop

/-- An option whose parameters are not accepted leaves the configuration as it was. -/
theorem run_rejected {params : List (List Char)} (rejected : describedServer params = none)
    (config : Configuration) :
    ((ConfigurationOption.iceServer params).run config).1 = config := by
  have none_returned := newIceServer_toOption params
  rw [rejected] at none_returned
  simp only [ConfigurationOption.run, Configuration.addIceServer]
  split
  · rfl
  · rename_i server accepted
    rw [accepted] at none_returned
    cases none_returned

/-- One option's effect on each field of the configuration. -/
theorem run_fields (option : ConfigurationOption) (config : Configuration) :
    (option.run config).1 =
      ⟨config.iceServers ++ (serverOf option).toList,
        (transportPolicyOf option).getD config.iceTransportPolicy,
        (bundlePolicyOf option).getD config.bundlePolicy, config.peerIdentity⟩ := by
  cases option with
  | iceServer params =>
      have described := newIceServer_toOption params
      simp only [ConfigurationOption.run, Configuration.addIceServer, serverOf, transportPolicyOf,
        bundlePolicyOf, Option.getD_none]
      split
      · rename_i message failed
        rw [failed] at described
        simp [← described, Except.toOption]
      · rename_i server built
        rw [built] at described
        simp [← described, Except.toOption]
  | iceTransportPolicy policy => simp [ConfigurationOption.run, serverOf, transportPolicyOf, bundlePolicyOf]
  | bundlePolicy policy => simp [ConfigurationOption.run, serverOf, transportPolicyOf, bundlePolicyOf]

/-- Running a list of options from any configuration: the run lemma of the fold. -/
theorem foldl_run (options : List ConfigurationOption) (config : Configuration) :
    options.foldl (fun current option => (option.run current).1) config =
      ⟨config.iceServers ++ options.filterMap serverOf,
        ((options.filterMap transportPolicyOf).getLast?).getD config.iceTransportPolicy,
        ((options.filterMap bundlePolicyOf).getLast?).getD config.bundlePolicy, config.peerIdentity⟩ := by
  induction options generalizing config with
  | nil => simp
  | cons option rest ih =>
      rw [List.foldl_cons, ih, run_fields]
      cases option with
      | iceServer params =>
          cases described : describedServer params <;> simp [serverOf, transportPolicyOf, bundlePolicyOf, described]
      | iceTransportPolicy policy =>
          simp [serverOf, transportPolicyOf, bundlePolicyOf, List.filterMap_cons, List.getLast?_cons]
      | bundlePolicy policy =>
          simp [serverOf, transportPolicyOf, bundlePolicyOf, List.filterMap_cons, List.getLast?_cons]

/-- `NewConfiguration` builds the configuration its options describe; `NewIceServer` succeeds
exactly on accepted parameters; a rejected option changes nothing. -/
theorem newConfiguration_described (options : List ConfigurationOption) :
    newConfiguration options = describedConfiguration options ∧
      (∀ params, (newIceServer params).toOption = describedServer params) ∧
      ∀ params, describedServer params = none → ∀ config,
        ((ConfigurationOption.iceServer params).run config).1 = config := by
  refine ⟨?_, newIceServer_toOption, fun params rejected => run_rejected rejected⟩
  rw [newConfiguration, foldl_run]
  rfl

end GoWebrtc
