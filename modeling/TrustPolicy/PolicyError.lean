import TrustPolicy.BuilderId

/-!
# Errors

The causes for which an operation on builders, sources, policies, or trust
managers is refused, and the sentence that reports each of them.
-/

namespace TrustPolicy

/-- Why an operation was refused. -/
inductive PolicyError
  | parentCycle
  | unknownBuilder (id : BuilderId)
  | certificateSource (source cause : String)
  | trustManager (cause : String)
  | invalidCertificate (cause : String)
  | invalidPin (cause : String)
  | defaultPolicyAlreadyInstalled
  deriving DecidableEq

namespace PolicyError

/-- The sentence that reports the error. -/
def message : PolicyError → String
  | .parentCycle => "loops are not allowed in builder parents"
  | .unknownBuilder id => id.text ++ " does not belong to this builder set"
  | .certificateSource source cause =>
      "certificate source `" ++ source ++ "` failed: " ++ cause
  | .trustManager cause => "trust manager construction failed: " ++ cause
  | .invalidCertificate cause => "invalid certificate: " ++ cause
  | .invalidPin cause => "invalid pin: " ++ cause
  | .defaultPolicyAlreadyInstalled => "the default policy has already been installed"

end PolicyError
end TrustPolicy
