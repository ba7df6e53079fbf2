/-
**Configuration of signing.**

A configuration holds what has been set by the program; the environment fills in only what is still
unset.  The key stays base64 text until a credential is made of the configuration.

Main definitions:

* `Environment` — variables with their values;
* `Config` — account name, key and variant, each of which may be unset;
* `Config.fillFrom` — what the environment fills in;
* `Config.credential`, `Config.requestSigner`, `Config.signer` — what a configuration describes.
-/

import SharedKey.Request

set_option relaxedAutoImplicit false
set_option autoImplicit false

namespace SharedKey

/-- Variables with their values. -/
abbrev Environment := List (Text × Text)

/-- A configuration; what is unset may still be filled in. -/
structure Config where
  accountName : Option Text
  /-- The key of the account as base64. -/
  accountKey : Option Text
  /-- The variant; without one, requests are signed in the default variant. -/
  variant : Option Variant
  deriving DecidableEq

namespace Config

/-- The variable of the account name. -/
def nameVariable : Text := "AZURE_STORAGE_ACCOUNT_NAME".toList

/-- The variable of the key. -/
def keyVariable : Text := "AZURE_STORAGE_ACCOUNT_KEY".toList

/-- The variable of the variant. -/
def variantVariable : Text := "AZURE_STORAGE_AUTH_VARIANT".toList

def empty : Config := ⟨none, none, none⟩

def withAccountName (config : Config) (name : Text) : Config :=
  { config with accountName := some name }

def withAccountKey (config : Config) (key : Text) : Config := { config with accountKey := some key }

def withVariant (config : Config) (variant : Variant) : Config :=
  { config with variant := some variant }

/-- The variant of a configuration with an environment; the variable is read only where no variant
is set. -/
def resolveVariant (config : Config) (environment : Environment) : Except Error (Option Variant) :=
  match config.variant with
  | some variant => .ok (some variant)
  | none =>
    match environment.lookup variantVariable with
    | some t => (Variant.parse t).map some
    | none => .ok none

/-- The configuration with what is unset taken from the environment. -/
def fillFrom (config : Config) (environment : Environment) : Except Error Config :=
  (config.resolveVariant environment).map fun variant =>
    ⟨config.accountName <|> environment.lookup nameVariable,
     config.accountKey <|> environment.lookup keyVariable, variant⟩

/-- A value that is set and not empty. -/
def present? (value : Option Text) : Option Text := value.filter (!·.isEmpty)

/-- The credential that the configuration describes. -/
def credential (config : Config) : Except Error Credential :=
  match present? config.accountName with
  | none => .error .accountNameMissing
  | some name =>
    match present? config.accountKey with
    | none => .error (.accountKeyMissing name)
    | some key => Credential.ofSharedKey name key

/-- The request signer that the configuration describes. -/
def requestSigner (config : Config) : RequestSigner := ⟨config.variant.getD Variant.default⟩

/-- The signer that the configuration describes. -/
def signer (config : Config) : Except Error Signer :=
  config.credential.map fun credential => ⟨credential, config.requestSigner⟩

/-- A value that may be missing, in a description. -/
def describeOption : Option Text → Text
  | some t => "Some(".toList ++ t ++ [')']
  | none => "None".toList

/-- A description that shows no more of the key than its ends. -/
def describe (config : Config) : Text :=
  "Config \x7b account_name: ".toList ++ describeOption (config.accountName.map Text.quoted)
    ++ ", account_key: ".toList ++ Redaction.ofOption config.accountKey
    ++ ", auth_variant: ".toList ++ describeOption (config.variant.map Variant.name)
    ++ " \x7d".toList

end Config

end SharedKey
