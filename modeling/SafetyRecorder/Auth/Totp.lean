import SafetyRecorder.Auth.Models

namespace SafetyRecorder.Auth

/-!
# Auth — time-based one-time codes

`MatchTOTPCode` (`internal/auth/totp.go`) over an arbitrary code library.

* `matchTOTPCode` — the first time step of the window whose code matches.
-/

/-- What `MatchTOTPCode` asks of other packages. -/
structure TOTPLibrary where
  /-- `strings.TrimSpace`. -/
  trimSpace : String → String
  /-- `totp.GenerateCodeCustom`: the code of a secret at an instant in seconds. -/
  generateCodeCustom : String → Int → Except Unit String

/-- `MatchTOTPCode` ends in an error: the policy is not supported, or no code could be
    generated. -/
inductive TOTPError
  | invalidPolicy | generator
  deriving DecidableEq, Repr

/-- `totpValidateOptions`. -/
def totpValidateOptions (periodSeconds digits : Int) (algorithm : String) : Bool :=
  decide (0 < periodSeconds) && decide (digits = 6) && algorithm == "SHA1"

/-- The loop over the time steps of the window: the first one whose code matches. -/
def matchSteps (lib : TOTPLibrary) (secret code : String) (periodSeconds : Int) :
    List Int → Except TOTPError (Option Int)
  | [] => .ok none
  | step :: steps =>
    if step < 0 then matchSteps lib secret code periodSeconds steps
    else
      match lib.generateCodeCustom secret (step * periodSeconds) with
      | .error _ => .error .generator
      | .ok want =>
        if want = code then .ok (some step) else matchSteps lib secret code periodSeconds steps

/-- `now.Unix()`. -/
def unixSeconds (now : Time) : Int := now / 1000000000

/-- The window: one step of skew to either side. -/
def totpWindow (now : Time) (periodSeconds : Int) : List Int :=
  let currentStep := (unixSeconds now).tdiv periodSeconds
  [currentStep - 1, currentStep, currentStep + 1]

/-- `MatchTOTPCode`: the time step of the code, `none` for a code that does not match. -/
def matchTOTPCode (lib : TOTPLibrary) (secret code : String) (now : Time)
    (periodSeconds digits : Int) (algorithm : String) : Except TOTPError (Option Int) :=
  let secret := lib.trimSpace secret
  let code := lib.trimSpace code
  if secret = "" ∨ code = "" then .ok none
  else if totpValidateOptions periodSeconds digits algorithm = false then .error .invalidPolicy
  else if code.utf8ByteSize ≠ 6 then .ok none
  else matchSteps lib secret code periodSeconds (totpWindow now periodSeconds)

end SafetyRecorder.Auth
