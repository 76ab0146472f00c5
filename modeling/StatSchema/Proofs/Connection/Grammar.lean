import StatSchema.Connection.Url
import StatSchema.Proofs.Text.Cuts

/-!
# `StatSchema.Proofs.Connection.Grammar` — an address is read exactly when it can be written

An address is written from its parts: a scheme, a user, a password, a host, a port, a name and perhaps
options. Each part but the password is free of the characters at which it ends, so that every cut of the
reader falls on a separator of the writer, whatever the password holds. Reading accepts just what can be
written in this way, in one way only, and returns the parts.

## Contents
- **Writing.** `Address`: parts free of what ends them; `Address.text`, `Address.connection`.
- **Options.** `optionsText`, `takeWhile_name`, `exists_name`.
- **Cuts.** The five cuts of a written address; `Address.text_injective`.
- **Reading.** `split_eq_ok_iff`, `split_text`, `exists_address`, `parse_grammar`.
-/

namespace StatSchema.Connection

/-! ## Writing -/

/-- The options as they follow the name. -/
def optionsText : Option String → String
  | none => ""
  | some text => "?" ++ text

/-- **The parts of an address.** The password may hold any character. The user ends at the first colon, so
    it holds none; host, port, name and options stand after the last `@`, so they hold none. -/
@[ext]
structure Address where
  scheme : String
  user : String
  password : String
  host : String
  port : String
  name : String
  options : Option String
  scheme_ends : ¬ "://".toList <:+: scheme.toList
  user_ends : ':' ∉ user.toList
  host_ends : ':' ∉ host.toList ∧ '/' ∉ host.toList
  port_ends : '/' ∉ port.toList
  name_ends : '?' ∉ name.toList
  named : name ≠ ""
  located : '@' ∉ host.toList ∧ '@' ∉ port.toList ∧ '@' ∉ name.toList ∧
    ∀ text ∈ options, '@' ∉ text.toList

namespace Address

/-- The address as it is written. -/
def text (a : Address) : String :=
  a.scheme ++ "://" ++ a.user ++ ":" ++ a.password ++ "@" ++ a.host ++ ":" ++ a.port ++ "/" ++ a.name
    ++ optionsText a.options

/-- What is kept of the address. -/
def connection (a : Address) : Connection where
  url := a.text
  host := a.host
  port := a.port
  name := a.name
  user := a.user
  password := a.password

end Address

/-! ## Options -/

theorem at_notMem_optionsText {options : Option String} :
    '@' ∉ (optionsText options).toList ↔ ∀ text ∈ options, '@' ∉ text.toList := by
  cases options <;> simp [optionsText]

theorem optionsText_injective : Function.Injective optionsText := by
  intro options options' h
  have hlist := congrArg String.toList h
  cases options with
  | none =>
    cases options' with
    | none => rfl
    | some text' => simp [optionsText] at hlist
  | some text =>
    cases options' with
    | none => simp [optionsText] at hlist
    | some text' =>
      simp only [optionsText, String.toList_append, List.append_cancel_left_eq] at hlist
      rw [String.toList_injective hlist]

/-- A name without a question mark ends where the options begin. -/
theorem takeWhile_name {name : String} (ends : '?' ∉ name.toList) (options : Option String) :
    (name.toList ++ (optionsText options).toList).takeWhile (· ≠ '?') = name.toList := by
  have hname : ∀ c ∈ name.toList, decide (c ≠ '?') = true := by
    intro c hc
    refine decide_eq_true ?_
    rintro rfl
    exact ends hc
  rw [List.takeWhile_append_of_pos hname]
  cases options <;> simp [optionsText]

/-- Every text is a name without a question mark that options may follow. -/
theorem exists_name (path : List Char) : ∃ (name : String) (options : Option String),
    '?' ∉ name.toList ∧ path = name.toList ++ (optionsText options).toList := by
  induction path with
  | nil => exact ⟨"", none, by simp, by simp [optionsText]⟩
  | cons c path ih =>
    by_cases hc : c = '?'
    · exact ⟨"", some (String.ofList path), by simp, by simp [optionsText, hc]⟩
    · obtain ⟨name, options, ends, rfl⟩ := ih
      refine ⟨String.ofList (c :: name.toList), options, ?_, ?_⟩
      · simp [ends, Ne.symm hc]
      · simp

/-! ## Cuts -/

namespace Address

/-- What stands before the last `@`, but for the scheme. -/
def credentials (a : Address) : List Char :=
  a.user.toList ++ ':' :: a.password.toList

/-- What stands before the first slash after the credentials. -/
def hostPort (a : Address) : List Char :=
  a.host.toList ++ ':' :: a.port.toList

/-- The name with its options. -/
def path (a : Address) : List Char :=
  a.name.toList ++ (optionsText a.options).toList

/-- What stands after the last `@`. -/
def location (a : Address) : List Char :=
  a.hostPort ++ '/' :: a.path

theorem toList_text (a : Address) :
    a.text.toList = a.scheme.toList ++ ("://".toList ++ (a.credentials ++ '@' :: a.location)) := by
  simp [text, credentials, location, hostPort, path]

theorem cut_scheme (a : Address) :
    Text.cutFirst "://".toList a.text.toList =
      some (a.scheme.toList, a.credentials ++ '@' :: a.location) :=
  (Text.cutFirst_eq_some_iff (by decide) (by decide)).mpr ⟨a.toList_text, a.scheme_ends⟩

theorem cut_credentials (a : Address) :
    Text.cutLast '@' (a.credentials ++ '@' :: a.location) = some (a.credentials, a.location) := by
  refine Text.cutLast_eq_some_iff.mpr ⟨rfl, ?_⟩
  obtain ⟨hhost, hport, hname, hoptions⟩ := a.located
  simp [location, hostPort, path, hhost, hport, hname, at_notMem_optionsText.mpr hoptions]

theorem cut_user (a : Address) :
    Text.cutFirst [':'] a.credentials = some (a.user.toList, a.password.toList) :=
  Text.cutFirst_char_eq_some_iff.mpr ⟨rfl, a.user_ends⟩

theorem cut_location (a : Address) :
    Text.cutFirst ['/'] a.location = some (a.hostPort, a.path) := by
  refine Text.cutFirst_char_eq_some_iff.mpr ⟨rfl, ?_⟩
  simp [hostPort, a.host_ends.2, a.port_ends]

theorem cut_host (a : Address) :
    Text.cutFirst [':'] a.hostPort = some (a.host.toList, a.port.toList) :=
  Text.cutFirst_char_eq_some_iff.mpr ⟨rfl, a.host_ends.1⟩

theorem cut_name (a : Address) : a.path.takeWhile (· ≠ '?') = a.name.toList :=
  takeWhile_name a.name_ends a.options

/-- **An address is written in one way only**: each cut gives the same parts back. -/
theorem text_injective : Function.Injective text := by
  intro a b h
  have hscheme := a.cut_scheme
  rw [h, b.cut_scheme, Option.some.injEq, Prod.mk.injEq] at hscheme
  have hcredentials := a.cut_credentials
  rw [← hscheme.2, b.cut_credentials, Option.some.injEq, Prod.mk.injEq] at hcredentials
  have huser := a.cut_user
  rw [← hcredentials.1, b.cut_user, Option.some.injEq, Prod.mk.injEq] at huser
  have hlocation := a.cut_location
  rw [← hcredentials.2, b.cut_location, Option.some.injEq, Prod.mk.injEq] at hlocation
  have hhost := a.cut_host
  rw [← hlocation.1, b.cut_host, Option.some.injEq, Prod.mk.injEq] at hhost
  have hname := a.cut_name
  rw [← hlocation.2, b.cut_name] at hname
  have hoptions : optionsText b.options = optionsText a.options := by
    have hpath : b.path = a.path := hlocation.2
    rw [path, path, hname] at hpath
    exact String.toList_injective (List.append_cancel_left hpath)
  exact Address.ext (String.toList_injective hscheme.1.symm) (String.toList_injective huser.1.symm)
    (String.toList_injective huser.2.symm) (String.toList_injective hhost.1.symm)
    (String.toList_injective hhost.2.symm) (String.toList_injective hname.symm)
    (optionsText_injective hoptions.symm)

end Address

/-! ## Reading -/

/-- **What the reader does**: five cuts, and a name before the first question mark. -/
theorem split_eq_ok_iff {url : List Char} {c : Connection} :
    split url = .ok c ↔ ∃ scheme rest credentials location user password hostPort path host port,
      Text.cutFirst "://".toList url = some (scheme, rest) ∧
      Text.cutLast '@' rest = some (credentials, location) ∧
      Text.cutFirst [':'] credentials = some (user, password) ∧
      Text.cutFirst ['/'] location = some (hostPort, path) ∧
      Text.cutFirst [':'] hostPort = some (host, port) ∧
      path.takeWhile (· ≠ '?') ≠ [] ∧
      c = { url := String.ofList url, host := String.ofList host, port := String.ofList port
            name := String.ofList (path.takeWhile (· ≠ '?')), user := String.ofList user
            password := String.ofList password } := by
  constructor
  · intro h
    unfold split at h
    split at h
    · cases h
    · next scheme rest hscheme =>
      split at h
      · cases h
      · next credentials location hcredentials =>
        split at h
        · cases h
        · next user password huser =>
          split at h
          · cases h
          · next hostPort path hlocation =>
            split at h
            · cases h
            · next host port hhost =>
              simp only [List.isEmpty_iff] at h
              split at h
              · cases h
              · next hname =>
                exact ⟨scheme, rest, credentials, location, user, password, hostPort, path, host, port,
                  hscheme, hcredentials, huser, hlocation, hhost, hname, (Except.ok.inj h).symm⟩
  · rintro ⟨scheme, rest, credentials, location, user, password, hostPort, path, host, port,
      hscheme, hcredentials, huser, hlocation, hhost, hname, rfl⟩
    simp only [split, hscheme, hcredentials, huser, hlocation, hhost]
    rw [if_neg (by rwa [List.isEmpty_iff])]

/-- A written address is read, and its parts come back. -/
theorem split_text (a : Address) : split a.text.toList = .ok a.connection := by
  refine split_eq_ok_iff.mpr ⟨_, _, _, _, _, _, _, _, _, _, a.cut_scheme, a.cut_credentials, a.cut_user,
    a.cut_location, a.cut_host, ?_, ?_⟩
  · rw [a.cut_name]
    simpa using a.named
  · rw [a.cut_name]
    simp [Address.connection]

theorem exists_toList (cs : List Char) : ∃ s : String, s.toList = cs :=
  ⟨String.ofList cs, String.toList_ofList⟩

/-- **What is read can be written.** Each cut tells of which characters the part before or after it is
    free, and these are the conditions on the parts. -/
theorem exists_address {url : String} {c : Connection} (h : split url.toList = .ok c) :
    ∃ a : Address, a.text = url := by
  obtain ⟨scheme, rest, credentials, location, user, password, hostPort, path, host, port, hscheme,
    hcredentials, huser, hlocation, hhost, hname, -⟩ := split_eq_ok_iff.mp h
  obtain ⟨hurl, scheme_ends⟩ := (Text.cutFirst_eq_some_iff (by decide) (by decide)).mp hscheme
  obtain ⟨rfl, located⟩ := Text.cutLast_eq_some_iff.mp hcredentials
  obtain ⟨rfl, user_ends⟩ := Text.cutFirst_char_eq_some_iff.mp huser
  obtain ⟨rfl, hostPort_ends⟩ := Text.cutFirst_char_eq_some_iff.mp hlocation
  obtain ⟨rfl, host_ends⟩ := Text.cutFirst_char_eq_some_iff.mp hhost
  obtain ⟨name, options, name_ends, rfl⟩ := exists_name path
  obtain ⟨scheme, rfl⟩ := exists_toList scheme
  obtain ⟨user, rfl⟩ := exists_toList user
  obtain ⟨password, rfl⟩ := exists_toList password
  obtain ⟨host, rfl⟩ := exists_toList host
  obtain ⟨port, rfl⟩ := exists_toList port
  rw [takeWhile_name name_ends] at hname
  simp only [List.mem_append, List.mem_cons, not_or] at hostPort_ends located
  obtain ⟨host_slash, -, port_ends⟩ := hostPort_ends
  obtain ⟨⟨host_at, -, port_at⟩, -, name_at, options_at⟩ := located
  refine ⟨{ scheme, user, password, host, port, name, options
            scheme_ends, user_ends, port_ends, name_ends
            host_ends := ⟨host_ends, host_slash⟩
            named := by simpa using hname
            located := ⟨host_at, port_at, name_at, at_notMem_optionsText.mp options_at⟩ },
    String.toList_injective ?_⟩
  rw [hurl]
  exact Address.toList_text _

/-- **An address is read exactly when it can be written**, and what is returned are the parts that it is
    written from; it determines these parts. -/
theorem parse_grammar (var url : String) :
    (∀ c, parse var url = .ok c ↔ ∃ a : Address, a.text = url ∧ a.connection = c) ∧
      Function.Injective Address.text := by
  refine ⟨fun c => ?_, Address.text_injective⟩
  have hparse : parse var url = .ok c ↔ split url.toList = .ok c := by
    rw [parse]
    cases split url.toList <;> simp [Except.mapError]
  rw [hparse]
  constructor
  · intro h
    obtain ⟨a, rfl⟩ := exists_address h
    exact ⟨a, rfl, Except.ok.inj ((split_text a).symm.trans h)⟩
  · rintro ⟨a, rfl, rfl⟩
    exact split_text a

/-- The password holds every separator. -/
example : parse "DATABASE_URL" "postgres://deso:a@b:c/d?e://f@db:6432/explorer?sslmode=require" = .ok
    { url := "postgres://deso:a@b:c/d?e://f@db:6432/explorer?sslmode=require"
      host := "db", port := "6432", name := "explorer", user := "deso"
      password := "a@b:c/d?e://f" } := by
  decide

end StatSchema.Connection
