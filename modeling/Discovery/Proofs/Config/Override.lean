import Discovery.Proofs.Config.Categories
import Discovery.Proofs.Text.Numeral

namespace Discovery

/-!
# What the environment changes

Four settings can be overridden and no other is touched.  A number is taken over
if it is spelled as one and fits, and a list is replaced by what it lists
(`Config.Overrides`).  An environment that has had its say changes nothing more
(`Config.override_override`).
-/

namespace Environment

/-- The environment after a variable was set to a text. -/
def set (environment : Environment) (name value : String) : Environment :=
  (name, Bytes.ofText value) :: environment

@[simp]
theorem text?_set (environment : Environment) (name value : String) :
    (environment.set name value).text? name = some value := by
  rw [text?, set, List.lookup_cons_self, Option.bind_some, Bytes.toText?_ofText]

/-- What becomes of a number below a limit under a variable that may be set to a text. -/
inductive SetsNumber (given : Option String) (limit previous : Nat) : Nat → Prop where
  | taken
      {text : String}
      {value : Nat}
      (isSet : given = some text)
      (spelled : Text.Spells text value)
      (fits : value < limit) :
      SetsNumber given limit previous value
  | kept (unread : ∀ text ∈ given, ∀ value < limit, ¬Text.Spells text value) :
      SetsNumber given limit previous previous

/-- A number is taken over if it is spelled as one and fits, and stays otherwise. -/
theorem setsNumber_number
    (environment : Environment)
    (name : String)
    (limit previous : Nat) :
    SetsNumber (environment.text? name) limit previous
      (environment.number name limit previous) := by
  rw [number]
  cases isSet : environment.text? name with
  | none => exact .kept fun _ isText => nomatch isText
  | some text =>
      rw [Option.bind_some]
      cases read : Text.wholeNumber? limit text with
      | some value =>
          obtain ⟨spelled, fits⟩ := Text.wholeNumber?_eq_some_iff.mp read
          exact .taken rfl spelled fits
      | none =>
          refine .kept fun other isText value fits spelled => ?_
          cases isText
          rw [Text.wholeNumber?_eq_some_iff.mpr ⟨spelled, fits⟩] at read
          cases read

theorem number_lt
    (environment : Environment)
    (name : String)
    {limit previous : Nat}
    (fits : previous < limit) :
    environment.number name limit previous < limit := by
  have sets := environment.setsNumber_number name limit previous
  generalize environment.number name limit previous = value at sets ⊢
  cases sets with
  | taken _ _ small => exact small
  | kept _ => exact fits

/-- A variable that has been heard once has nothing to add. -/
theorem number_number
    (environment : Environment)
    (name : String)
    (limit previous : Nat) :
    environment.number name limit (environment.number name limit previous) =
      environment.number name limit previous := by
  unfold number
  cases (environment.text? name).bind (Text.wholeNumber? limit) <;> rfl

end Environment

namespace Config

section Overrides

/-- What becomes of a list of categories under a variable that may be set to a text. -/
inductive SetsList (given : Option String) (previous : List String) : List String → Prop where
  | taken
      {list : String}
      {items : List String}
      (isSet : given = some list)
      (listed : Lists list items) :
      SetsList given previous items
  | kept (unset : given = none) : SetsList given previous previous

/-- What an environment makes of a configuration. -/
structure Overrides (environment : Environment) (before after : Config) : Prop where
  expiry : Environment.SetsNumber (environment.text? "BEACON_AGENT__RESOURCE_EXPIRY_SECS")
    UInt32.size before.agent.resourceExpiry.toNat after.agent.resourceExpiry.toNat
  port : Environment.SetsNumber (environment.text? "BEACON_NETWORK__PORT")
    UInt16.size before.network.port.toNat after.network.port.toNat
  interface : after.network.interface =
    (environment.text? "BEACON_NETWORK__INTERFACE").getD before.network.interface
  subscribe : SetsList (environment.text? "BEACON_SUBSCRIBE") before.subscribe after.subscribe
  others : after = { before with
    subscribe := after.subscribe
    agent := { before.agent with resourceExpiry := after.agent.resourceExpiry }
    network := { before.network with
      interface := after.network.interface
      port := after.network.port } }

theorem toNat_resourceExpiry_override
    (environment : Environment)
    (config : Config) :
    (config.override environment).agent.resourceExpiry.toNat =
      environment.number "BEACON_AGENT__RESOURCE_EXPIRY_SECS" UInt32.size
        config.agent.resourceExpiry.toNat :=
  UInt32.toNat_ofNat_of_lt' (environment.number_lt _ config.agent.resourceExpiry.toNat_lt)

theorem toNat_port_override
    (environment : Environment)
    (config : Config) :
    (config.override environment).network.port.toNat =
      environment.number "BEACON_NETWORK__PORT" UInt16.size config.network.port.toNat :=
  UInt16.toNat_ofNat_of_lt' (environment.number_lt _ config.network.port.toNat_lt)

theorem overrides_override
    (environment : Environment)
    (config : Config) :
    Overrides environment config (config.override environment) where
  expiry := by
    rw [toNat_resourceExpiry_override]
    exact environment.setsNumber_number ..
  port := by
    rw [toNat_port_override]
    exact environment.setsNumber_number ..
  interface := rfl
  subscribe := by
    rw [override]
    cases isSet : environment.text? "BEACON_SUBSCRIBE" with
    | none => exact .kept rfl
    | some list => exact .taken rfl (lists_categories list)
  others := rfl

/-- An environment that has been heard once has nothing to add. -/
theorem override_override
    (environment : Environment)
    (config : Config) :
    (config.override environment).override environment = config.override environment := by
  have expiry : ((config.override environment).override environment).agent.resourceExpiry =
      (config.override environment).agent.resourceExpiry := by
    apply UInt32.toNat_inj.mp
    rw [toNat_resourceExpiry_override, toNat_resourceExpiry_override, Environment.number_number]
  have port : ((config.override environment).override environment).network.port =
      (config.override environment).network.port := by
    apply UInt16.toNat_inj.mp
    rw [toNat_port_override, toNat_port_override, Environment.number_number]
  have interface : ((config.override environment).override environment).network.interface =
      (config.override environment).network.interface := by
    simp only [override, overrideNetwork]
    cases environment.text? "BEACON_NETWORK__INTERFACE" <;> rfl
  have subscribe : ((config.override environment).override environment).subscribe =
      (config.override environment).subscribe := by
    simp only [override]
    cases environment.text? "BEACON_SUBSCRIBE" <;> rfl
  rw [(overrides_override environment (config.override environment)).others, expiry, port,
    interface, subscribe]

/--
An environment changes four settings at most: either number to what its variable
spells, if that is a number and fits, the interface to its variable, and the list
to the items of its variable.  Heard again it changes nothing more.  The categories
of a list that it sets can stand in a list, and are set again by the list that is
put together from them.
-/
theorem override_spec
    (environment : Environment)
    (config : Config) :
    Overrides environment config (config.override environment) ∧
      (config.override environment).override environment = config.override environment ∧
        ∀ list ∈ environment.text? "BEACON_SUBSCRIBE",
          (∀ category ∈ (config.override environment).subscribe, IsItem category) ∧
            ∀ (other : Environment) (another : Config),
              (another.override (other.set "BEACON_SUBSCRIBE"
                (",".intercalate (config.override environment).subscribe))).subscribe =
                  (config.override environment).subscribe := by
  refine ⟨overrides_override environment config, override_override environment config, ?_⟩
  intro list isSet
  have listed : (config.override environment).subscribe = categories list := by
    rw [override, Option.mem_def.mp isSet]
    rfl
  have items : ∀ category ∈ (config.override environment).subscribe, IsItem category := by
    rw [listed]
    exact fun category => isItem_of_lists (lists_categories list)
  refine ⟨items, fun other another => ?_⟩
  rw [override, Environment.text?_set]
  exact categories_intercalate items

/-- A list that is written carelessly is set again by the tidy one. -/
theorem override_spec_untidy :
    let environment := Environment.set [] "BEACON_SUBSCRIBE" " Room,, Lobby ,"
    environment.text? "BEACON_SUBSCRIBE" = some " Room,, Lobby ," ∧
      (override environment {}).subscribe = ["Room", "Lobby"] ∧
        ∀ (other : Environment) (another : Config),
          (another.override (other.set "BEACON_SUBSCRIBE"
            (",".intercalate (override environment {}).subscribe))).subscribe =
              (override environment {}).subscribe := by
  intro environment
  have isSet : environment.text? "BEACON_SUBSCRIBE" = some " Room,, Lobby ," :=
    Environment.text?_set ..
  exact ⟨isSet, by decide +kernel, ((override_spec environment {}).2.2 _ isSet).2⟩

end Overrides

end Config

end Discovery
