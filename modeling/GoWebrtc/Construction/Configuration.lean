import GoWebrtc.Go.Basic
import GoWebrtc.Go.Strings

/-!
`Configuration` and `IceServer` from `configuration.go`, with their functional options.
-/

namespace GoWebrtc

open GoStrings

/-- An ICE server: its URLs, user name and credential. -/
structure IceServer where
  urls : List (List Char)
  username : List Char
  credential : List Char
  deriving DecidableEq, Repr

/-- A peer connection configuration; the two policies are Go `int` enumerations. -/
structure Configuration where
  iceServers : List IceServer
  iceTransportPolicy : Int64
  bundlePolicy : Int64
  peerIdentity : List Char
  deriving DecidableEq, Repr

def bundlePolicyBalanced : Int64 := 0
def bundlePolicyMaxBundle : Int64 := 1
def bundlePolicyMaxCompat : Int64 := 2

def iceTransportPolicyNone : Int64 := 0
def iceTransportPolicyRelay : Int64 := 1
def iceTransportPolicyAll : Int64 := 3

/-- The error `NewIceServer` returns for a URL without a `stun:` or `turn:` prefix. -/
def malformedUrl (url : List Char) : List Char :=
  "IceServer: received malformed url: <".toList ++ url ++ ">".toList

/-- The loop of `NewIceServer` over the split URLs: each piece is trimmed, checked, and written
back at its index of the slice. -/
def checkUrls (urls : List (List Char)) : Nat → List (List Char) → Except (List Char) (List (List Char))
  | _, [] => .ok urls
  | index, url :: rest =>
      let url := trimSpace url
      if !hasPrefix url "stun:".toList && !hasPrefix url "turn:".toList then .error (malformedUrl url)
      else checkUrls (urls.set index url) (index + 1) rest

/-- `NewIceServer`: the comma-separated URLs, then an optional user name and credential. -/
def newIceServer (params : List (List Char)) : Except (List Char) IceServer :=
  match params with
  | [] => .error "IceServer: missing first comma-separated Urls string.".toList
  | urlList :: _ =>
      if urlList = [] then .error "IceServer: requires at least one Url".toList
      else
        let urls := split urlList ','
        match checkUrls urls 0 urls with
        | .error message => .error message
        | .ok urls => .ok ⟨urls, (params[1]?).getD [], (params[2]?).getD []⟩

/-- `AddIceServer` appends the server, or leaves the configuration and returns the error. -/
def Configuration.addIceServer (config : Configuration) (params : List (List Char)) :
    Configuration × Option (List Char) :=
  match newIceServer params with
  | .error message => (config, some message)
  | .ok server => ({ config with iceServers := config.iceServers ++ [server] }, none)

/-- The options `OptionIceServer`, `OptionIceTransportPolicy` and `OptionBundlePolicy`. -/
inductive ConfigurationOption where
  | iceServer (params : List (List Char))
  | iceTransportPolicy (policy : Int64)
  | bundlePolicy (policy : Int64)
  deriving DecidableEq, Repr

/-- Running an option on a configuration gives the configuration after it and its error. -/
def ConfigurationOption.run : ConfigurationOption → Configuration → Configuration × Option (List Char)
  | .iceServer params, config => config.addIceServer params
  | .iceTransportPolicy policy, config => ({ config with iceTransportPolicy := policy }, none)
  | .bundlePolicy policy, config => ({ config with bundlePolicy := policy }, none)

/-- The configuration `NewConfiguration` starts from: no servers, `All` and `Balanced`. -/
def defaultConfiguration : Configuration := ⟨[], iceTransportPolicyAll, bundlePolicyBalanced, []⟩

/-- `NewConfiguration` runs the options in order; an option's error is only logged. -/
def newConfiguration (options : List ConfigurationOption) : Configuration :=
  options.foldl (fun config option => (option.run config).1) defaultConfiguration

end GoWebrtc
