import LiveText.Path

/-!
# Faults

What can go wrong when text is bound to state, as causes, and the wording of each.

## Main definitions

- `Fault`, `Fault.message?`.
-/

namespace LiveText

/-- The identity of a subscriber: the order in which subscribers were made. -/
abbrev SubscriberId := Nat

/-- Why component options are refused. -/
inductive OptionsCause where
  /-- The text is not the JSON of options. -/
  | json
  /-- The text is not the TOML of options. -/
  | toml
  /-- The selector of the mount element is empty or blank. -/
  | blankSelector
deriving DecidableEq, Repr

/-- What can go wrong. -/
inductive Fault where
  /-- The selector of the mount element matches nothing. -/
  | invalidMountSelector (selector : String)
  /-- A tracked read of `path` found no property for the key `missing`. -/
  | missingDataPath (path : Path) (missing : String)
  /-- A collection for `requested` was started while one for `active` was under way. -/
  | reentrantCollection (active requested : SubscriberId)
  /-- A write to, or a handle on, a property that does not exist. -/
  | unknownProperty (path : Path)
  /-- Component options that cannot be used. -/
  | invalidOptions (cause : OptionsCause)
deriving DecidableEq, Repr

/-- What is wrong with the options. -/
def OptionsCause.message : OptionsCause → String
  | .json => "json: "
  | .toml => "toml: "
  | .blankSelector => "`el` must be a non-empty selector"

namespace Fault

/-- The wording of a fault. A refused collection has none: all there is to say is who was
collecting and who asked. -/
def message? : Fault → Option String
  | .invalidMountSelector selector => some ("mount selector matched no element: " ++ selector)
  | .missingDataPath path missing =>
    some ("data path `" ++ path.text ++ "` is missing key `" ++ missing ++ "`")
  | .reentrantCollection _ _ => none
  | .unknownProperty path => some ("no reactive property at `" ++ path.text ++ "`")
  | .invalidOptions cause => some ("invalid component options: " ++ cause.message)

end Fault

end LiveText
