import Vc.Apigw.CodeRedemption
import Vc.Apigw.CredentialContent
import Vc.Apigw.InteractiveAuthorization
import Vc.Apigw.RefreshRotation
import Vc.Apigw.TransactionCode
import Vc.Cache.Agreement
import Vc.Iso18013.DeviceBinding
import Vc.Iso18013.RoundTrip
import Vc.Iso18013.ZkCoverage
import Vc.Mdoc.SessionEncryption
import Vc.Openid4vp.HolderBindingRequest
import Vc.Openid4vp.KeyBinding
import Vc.Openid4vp.WalletReading
import Vc.Openid4vp.ZkpAcceptance
import Vc.Registry.Publication
import Vc.Revocation.Encodings
import Vc.Sdjwtvc.ProcessingRules
import Vc.Sdjwtvc.UndisclosedValues
import Vc.Vc20.SdSoundness
import Vc.Verifier.JtiReplay
import Vc.Verifier.RequestMatching
import Vc.Verifier.RevocationCheck
import Vc.Verifier.SingleUse
import Vc.Sdjwtvc.Validation
import Vc.Registry.RollOver
