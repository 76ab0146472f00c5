import StatSchema.Publication.Statements
import StatSchema.Statistics.Full
import StatSchema.Proofs.Text.Literals

/-!
# `StatSchema.Proofs.Publication.Password` — where the publisher's password goes

The password takes part in one of the statements that install the published statistics, and in nothing
else: neither in whether the settings are accepted nor in any other statement. In that statement it is
there as a whole, so the text of the installation tells different passwords apart.

## Contents
- **Settings.** `Environment.withPassword`, `ofEnvironment_withPassword`.
- **Statements.** `Publication.mappingStatement`, `createStatements_withPassword`.
- **Texts.** `intercalate_injective`, `mappingStatement_injective`.
-/

namespace StatSchema

/-! ## Settings -/

/-- The settings with another password of the publisher. -/
def Environment.withPassword (env : Environment) (password : String) : Environment :=
  fun key => if key = "DB_PASSWORD" then some password else env key

namespace Publisher

variable (env : Environment)

theorem required_withPassword (password key : String) (other : key ≠ "DB_PASSWORD") :
    required (env.withPassword password) key = required env key := by
  unfold required Environment.withPassword
  rw [if_neg other]

theorem required_password {password : String} (nonempty : password ≠ "") :
    required (env.withPassword password) "DB_PASSWORD" = .ok password := by
  unfold required Environment.withPassword
  rw [if_pos rfl, Option.filter_some, if_pos (by simpa using nonempty)]

/-- The coordinates but for the password, which is read last. -/
theorem ofEnvironment_eq {password : String} (nonempty : password ≠ "") :
    ofEnvironment (env.withPassword password) =
      ({ · with password }) <$> ofEnvironment (env.withPassword "-") := by
  have other (password : String) {key : String} (h : key ≠ "DB_PASSWORD") :=
    required_withPassword env password key h
  unfold ofEnvironment
  rw [other password (by decide), other password (by decide), other password (by decide),
    other password (by decide), other "-" (by decide), other "-" (by decide),
    other "-" (by decide), other "-" (by decide), required_password env nonempty,
    required_password env (by decide)]
  -- Both sides read the same four settings before the password.
  simp only [map_bind]
  rfl

/-- **Settings are accepted with any password or with none.** -/
theorem ofEnvironment_withPassword :
    (∃ error, ∀ password, password ≠ "" →
      ofEnvironment (env.withPassword password) = .error error) ∨
    ∃ publisher : Publisher, ∀ password, password ≠ "" →
      ofEnvironment (env.withPassword password) = .ok { publisher with password } := by
  cases h : ofEnvironment (env.withPassword "-") with
  | error error =>
    refine .inl ⟨error, fun password nonempty => ?_⟩
    rw [ofEnvironment_eq env nonempty, h]
    rfl
  | ok publisher =>
    refine .inr ⟨publisher, fun password nonempty => ?_⟩
    rw [ofEnvironment_eq env nonempty, h]
    rfl

end Publisher

/-! ## Statements -/

namespace Publication

/-- The statement that carries the password. -/
def mappingStatement (publisher : Publisher) : String :=
  "CREATE USER MAPPING FOR CURRENT_USER SERVER " ++ serverName
    ++ " OPTIONS (user " ++ Text.Literal.quote publisher.user
    ++ ", password " ++ Text.Literal.quote publisher.password ++ ")"

/-- **The password goes into one statement,** if there are statements at all. -/
theorem createStatements_withPassword (publisher : Publisher) (c : Catalog) :
    (∃ error, ∀ password, createStatements { publisher with password } c = .error error) ∨
    ∃ before after, ∀ password, createStatements { publisher with password } c =
      .ok (before ++ mappingStatement { publisher with password } :: after) := by
  unfold createStatements
  cases allViewStatements c publishedNames with
  | error error => exact .inl ⟨error, fun _ => rfl⟩
  | ok views =>
    refine .inr ⟨(connectionStatements publisher).take 2,
      (connectionStatements publisher).drop 3 ++ views, fun password => rfl⟩

end Publication

/-! ## Texts -/

/-- A joined list tells apart what stands at one place in it. -/
theorem intercalate_injective {separator x y : String} {before after : List String}
    (h : separator.intercalate (before ++ x :: after) = separator.intercalate (before ++ y :: after)) :
    x = y := by
  induction before with
  | nil =>
    cases after with
    | nil => simpa using h
    | cons a after =>
      rw [List.nil_append, List.nil_append, String.intercalate_cons_of_ne_nil (List.cons_ne_nil _ _),
        String.intercalate_cons_of_ne_nil (List.cons_ne_nil _ _), String.append_left_inj,
        String.append_left_inj] at h
      exact h
  | cons b before ih =>
    rw [List.cons_append, List.cons_append, String.intercalate_cons_of_ne_nil (by simp),
      String.intercalate_cons_of_ne_nil (by simp), String.append_right_inj] at h
    exact ih h

/-- The statement that carries the password tells passwords apart. -/
theorem mappingStatement_injective (publisher : Publisher) {p p' : String}
    (h : Publication.mappingStatement { publisher with password := p } =
      Publication.mappingStatement { publisher with password := p' }) : p = p' := by
  unfold Publication.mappingStatement at h
  rw [String.append_left_inj, String.append_right_inj] at h
  exact Text.Literal.quote_injective h

end StatSchema
