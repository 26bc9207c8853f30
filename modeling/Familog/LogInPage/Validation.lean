import Familog.LogInPage.LogIn
import Familog.LogInPage.SignUp
import Familog.Swift.Regex

/-!
Contract: what the sign-up form accepts, and what the log-in makes of the same texts.

Owns the pattern of `isPasswordValid` as a regular expression, that the check is a full
match of it, and that both say the plain thing about the scalars of the password; the
acceptance of a whole form; and that the two screens trim to the same credentials.

Does not own Auth: the theorem is about the pair that each screen submits.
-/

set_option autoImplicit false

namespace Familog.LogInPage

open Swift

/-! ## The pattern -/

/-- `[A-Za-z0-9]` -/
def isLetterOrDigit (scalar : Char) : Bool :=
  SignUp.isUpper scalar || SignUp.isLower scalar || SignUp.isDigit scalar

/-- `(?=.*[class])` -/
def aheadOf (inClass : Char → Bool) : Regex Char :=
  .lookAhead (.sequence (.atLeast 0 (.symbol fun scalar => !SignUp.isLineTerminator scalar))
    (.symbol inClass))

/-- `^(?=.*[a-z])(?=.*[0-9])(?=.*[A-Z])[A-Za-z0-9]{8,}` -/
def passwordTest : Regex Char :=
  .sequence .start (.sequence (aheadOf SignUp.isLower) (.sequence (aheadOf SignUp.isDigit)
    (.sequence (aheadOf SignUp.isUpper) (.atLeast 8 (.symbol isLetterOrDigit)))))

/-- The look-ahead finds its scalar on the first line of what is left. -/
theorem lookAhead_iff {inClass : Char → Bool} {scalars : List Char} :
    SignUp.lookAhead inClass scalars = true ↔
      ∃ taken scalar rest, scalars = taken ++ scalar :: rest ∧
        (∀ other ∈ taken, (!SignUp.isLineTerminator other) = true) ∧ inClass scalar = true := by
  induction scalars with
  | nil => simp [SignUp.lookAhead]
  | cons first others inductionHypothesis =>
      rw [SignUp.lookAhead, Bool.or_eq_true, Bool.and_eq_true, inductionHypothesis]
      constructor
      · rintro (inside | ⟨sameLine, taken, scalar, rest, rfl, onLine, inside⟩)
        · exact ⟨[], first, others, rfl, by simp, inside⟩
        · exact ⟨first :: taken, scalar, rest, rfl,
            List.forall_mem_cons.mpr ⟨sameLine, onLine⟩, inside⟩
      · rintro ⟨taken, scalar, rest, split, onLine, inside⟩
        cases taken with
        | nil =>
            obtain ⟨rfl, rfl⟩ := List.cons.inj split
            exact Or.inl inside
        | cons other taken =>
            obtain ⟨rfl, rfl⟩ := List.cons.inj split
            obtain ⟨sameLine, onLine⟩ := List.forall_mem_cons.mp onLine
            exact Or.inr ⟨sameLine, taken, scalar, rest, rfl, onLine, inside⟩

theorem matches_aheadOf {inClass : Char → Bool} {text left right : List Char} :
    Regex.Matches text (aheadOf inClass) left right ↔
      right = left ∧ SignUp.lookAhead inClass left = true := by
  rw [aheadOf, Regex.matches_lookAhead, lookAhead_iff]
  refine and_congr_right fun _ => ?_
  constructor
  · rintro ⟨rest, found⟩
    obtain ⟨taken, scalar, split, onLine, inside⟩ := Regex.matches_through.mp found
    exact ⟨taken, scalar, rest, split, onLine, inside⟩
  · rintro ⟨taken, scalar, rest, split, onLine, inside⟩
    exact ⟨rest, Regex.matches_through.mpr ⟨taken, scalar, split, onLine, inside⟩⟩

/-- `SELF MATCHES` holds exactly where the check of the model says so. -/
theorem isPasswordValid_iff_fullMatch (password : String) :
    SignUp.isPasswordValid password = true ↔
      Regex.FullMatch passwordTest password.toList := by
  have repeated : Regex.Matches password.toList (.atLeast 8 (.symbol isLetterOrDigit))
        password.toList [] ↔
      8 ≤ password.toList.length ∧
        ∀ scalar ∈ password.toList, isLetterOrDigit scalar = true := by
    rw [Regex.matches_atLeast_symbol]
    constructor
    · rintro ⟨taken, split, long, inside⟩
      rw [List.append_nil] at split
      exact split ▸ ⟨long, inside⟩
    · rintro ⟨long, inside⟩
      exact ⟨password.toList, (List.append_nil _).symm, long, inside⟩
  constructor
  · intro valid
    simp only [SignUp.isPasswordValid, Bool.and_eq_true, List.all_eq_true,
      decide_eq_true_eq] at valid
    obtain ⟨⟨⟨⟨lower, digit⟩, upper⟩, inside⟩, long⟩ := valid
    exact .sequence .start (.sequence (matches_aheadOf.mpr ⟨rfl, lower⟩)
      (.sequence (matches_aheadOf.mpr ⟨rfl, digit⟩)
        (.sequence (matches_aheadOf.mpr ⟨rfl, upper⟩) (repeated.mpr ⟨long, inside⟩))))
  · intro matched
    obtain ⟨_, atStart, matched⟩ := Regex.matches_sequence.mp matched
    obtain ⟨_, rfl⟩ := Regex.matches_start.mp atStart
    obtain ⟨_, ahead, matched⟩ := Regex.matches_sequence.mp matched
    obtain ⟨rfl, lower⟩ := matches_aheadOf.mp ahead
    obtain ⟨_, ahead, matched⟩ := Regex.matches_sequence.mp matched
    obtain ⟨rfl, digit⟩ := matches_aheadOf.mp ahead
    obtain ⟨_, ahead, matched⟩ := Regex.matches_sequence.mp matched
    obtain ⟨rfl, upper⟩ := matches_aheadOf.mp ahead
    obtain ⟨long, inside⟩ := repeated.mp matched
    simp only [SignUp.isPasswordValid, Bool.and_eq_true, List.all_eq_true, decide_eq_true_eq]
    exact ⟨⟨⟨⟨lower, digit⟩, upper⟩, inside⟩, long⟩

/-! ## What it says about the scalars -/

/-- Only ASCII letters and digits, at least eight, and one of each kind. -/
structure Strong (password : String) : Prop where
  lettersAndDigits : ∀ scalar ∈ password.toList, isLetterOrDigit scalar = true
  long : 8 ≤ password.toList.length
  lower : ∃ scalar ∈ password.toList, SignUp.isLower scalar = true
  upper : ∃ scalar ∈ password.toList, SignUp.isUpper scalar = true
  digit : ∃ scalar ∈ password.toList, SignUp.isDigit scalar = true

/-- No letter or digit ends a line. -/
theorem not_isLineTerminator {scalar : Char} (inside : isLetterOrDigit scalar = true) :
    (!SignUp.isLineTerminator scalar) = true := by
  simp only [isLetterOrDigit, SignUp.isUpper, SignUp.isLower, SignUp.isDigit, Char.le_def,
    UInt32.le_iff_toNat_le, Bool.or_eq_true, Bool.and_eq_true, decide_eq_true_eq] at inside
  simp only [SignUp.isLineTerminator, Char.toNat, Bool.not_eq_true', Bool.or_eq_false_iff,
    Bool.and_eq_false_iff, decide_eq_false_iff_not, beq_eq_false_iff_ne]
  have bounds : ('0'.val.toNat = 0x30 ∧ '9'.val.toNat = 0x39) ∧
      ('A'.val.toNat = 0x41 ∧ 'Z'.val.toNat = 0x5A) ∧
      ('a'.val.toNat = 0x61 ∧ 'z'.val.toNat = 0x7A) := by decide
  omega

/-- On one line, the look-ahead finds any scalar there is. -/
theorem lookAhead_iff_exists {inClass : Char → Bool} {scalars : List Char}
    (oneLine : ∀ scalar ∈ scalars, (!SignUp.isLineTerminator scalar) = true) :
    SignUp.lookAhead inClass scalars = true ↔ ∃ scalar ∈ scalars, inClass scalar = true := by
  rw [lookAhead_iff]
  constructor
  · rintro ⟨taken, scalar, rest, rfl, _, inside⟩
    exact ⟨scalar, by simp, inside⟩
  · rintro ⟨scalar, member, inside⟩
    obtain ⟨taken, rest, rfl⟩ := List.append_of_mem member
    exact ⟨taken, scalar, rest, rfl,
      fun other before => oneLine other (List.mem_append_left _ before), inside⟩

theorem isPasswordValid_iff (password : String) :
    SignUp.isPasswordValid password = true ↔ Strong password := by
  simp only [SignUp.isPasswordValid, Bool.and_eq_true, List.all_eq_true, decide_eq_true_eq]
  constructor
  · rintro ⟨⟨⟨⟨lower, digit⟩, upper⟩, inside⟩, long⟩
    have oneLine : ∀ scalar ∈ password.toList, (!SignUp.isLineTerminator scalar) = true :=
      fun scalar member => not_isLineTerminator (inside scalar member)
    exact ⟨inside, long, (lookAhead_iff_exists oneLine).mp lower,
      (lookAhead_iff_exists oneLine).mp upper, (lookAhead_iff_exists oneLine).mp digit⟩
  · rintro ⟨inside, long, lower, upper, digit⟩
    have oneLine : ∀ scalar ∈ password.toList, (!SignUp.isLineTerminator scalar) = true :=
      fun scalar member => not_isLineTerminator (inside scalar member)
    exact ⟨⟨⟨⟨(lookAhead_iff_exists oneLine).mpr lower, (lookAhead_iff_exists oneLine).mpr digit⟩,
      (lookAhead_iff_exists oneLine).mpr upper⟩, inside⟩, long⟩

theorem Strong.ne_empty {password : String} (strong : Strong password) : password ≠ "" := by
  rintro rfl
  have long := strong.long
  simp at long

/-! ## The whole form -/

/-- What a form has to be like to be accepted. Equality of the passwords is Swift's. -/
structure Acceptable (canonical : CanonicalForm) (fields : SignUp.Form) : Prop where
  name : trimmingCharacters fields.name ≠ ""
  email : trimmingCharacters fields.email ≠ ""
  confirmed : canonical.Same (trimmingCharacters fields.password)
    (trimmingCharacters fields.confirmedPassword)
  strong : Strong (trimmingCharacters fields.password)

theorem validateFields_eq_none {canonical : CanonicalForm} {fields : SignUp.Form} :
    SignUp.validateFields canonical fields = none ↔ Acceptable canonical fields := by
  rw [SignUp.validateFields]
  constructor
  · intro accepted
    split_ifs at accepted with unfilled
    rw [not_or, not_or, not_or] at unfilled
    obtain ⟨name, email, _, _⟩ := unfilled
    dsimp only at accepted
    split_ifs at accepted with weak same
    have valid := Bool.eq_true_of_not_eq_false weak
    exact ⟨name, email, same, (isPasswordValid_iff _).mp valid⟩
  · rintro ⟨name, email, confirmed, strong⟩
    -- the confirmation is filled in, since it equals a password that is
    have filled : trimmingCharacters fields.confirmedPassword ≠ "" := fun empty =>
      strong.ne_empty (CanonicalForm.same_empty.mp (empty ▸ confirmed))
    rw [if_neg (by simp [name, email, strong.ne_empty, filled]),
      if_neg (by simp [(isPasswordValid_iff _).mpr strong]), if_neg (not_not.mpr confirmed)]

/-- The check of the password is a full match of the pattern. The form is accepted exactly
if it is acceptable. And whatever white space or newlines are typed around the e-mail and
the password of an accepted form, the log-in submits the pair that went to `createUser`. -/
theorem log_in_submits_what_sign_up_created (canonical : CanonicalForm) (fields : SignUp.Form) :
    (∀ password, SignUp.isPasswordValid password = true ↔
        Regex.FullMatch passwordTest password.toList) ∧
      (SignUp.validateFields canonical fields = none ↔ Acceptable canonical fields) ∧
      (SignUp.validateFields canonical fields = none →
        ∃ email password,
          (SignUp.signUpTapped canonical fields).1 =
              [.createUser email password (trimmingCharacters fields.name)] ∧
            TypedAround email fields.email ∧ TypedAround password fields.password ∧
            ∀ emailText passwordText, TypedAround email emailText →
              TypedAround password passwordText →
              (LogIn.logInTapped emailText passwordText).1 = [.signIn email password]) := by
  refine ⟨isPasswordValid_iff_fullMatch, validateFields_eq_none, fun accepted => ?_⟩
  refine ⟨trimmingCharacters fields.email, trimmingCharacters fields.password, ?_,
    typedAround_trimmed fields.email, typedAround_trimmed fields.password, ?_⟩
  · rw [SignUp.signUpTapped, accepted]
  · intro emailText passwordText aroundEmail aroundPassword
    rw [LogIn.logInTapped, trimmingCharacters_of_typedAround aroundEmail,
      trimmingCharacters_of_typedAround aroundPassword, trimmingCharacters_idempotent,
      trimmingCharacters_idempotent]

end Familog.LogInPage
