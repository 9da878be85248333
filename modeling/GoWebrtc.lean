import GoWebrtc.C.Frame
import GoWebrtc.C.Memory
import GoWebrtc.C.Release
import GoWebrtc.Construction.CandidateCallback
import GoWebrtc.Construction.ChannelProperties
import GoWebrtc.Construction.Configuration
import GoWebrtc.Construction.DataChannel
import GoWebrtc.Construction.DataChannelInit
import GoWebrtc.Construction.Description
import GoWebrtc.Construction.Enums
import GoWebrtc.Construction.Ice
import GoWebrtc.Construction.NativeConfiguration
import GoWebrtc.Construction.PeerCallbacks
import GoWebrtc.Construction.PeerConnection
import GoWebrtc.Construction.Registration
import GoWebrtc.Construction.Sdp
import GoWebrtc.Construction.SdpRequests
import GoWebrtc.Construction.Utils
import GoWebrtc.Cpp.Promise
import GoWebrtc.Float.Binary
import GoWebrtc.Go.Basic
import GoWebrtc.Go.Interleaving
import GoWebrtc.Go.Strings
import GoWebrtc.Json.Decode
import GoWebrtc.Json.Encode
import GoWebrtc.Json.Scanner
import GoWebrtc.Proof.ChannelProperties
import GoWebrtc.Proof.Configuration
import GoWebrtc.Proof.DataChannel
import GoWebrtc.Proof.DataChannelInit
import GoWebrtc.Proof.Description
import GoWebrtc.Proof.Enums
import GoWebrtc.Proof.FreeConfig
import GoWebrtc.Proof.NativeConfiguration
import GoWebrtc.Proof.PeerCallbacks
import GoWebrtc.Proof.PeerConnection
import GoWebrtc.Proof.SdpRequests
import GoWebrtc.Proof.SerialRegistration
import GoWebrtc.Proof.Serialize
