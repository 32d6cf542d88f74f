import Anbox.Lxc.LxcContainer

/-!
# The configuration of a second start

The handle of the first start is used again by the next one, with everything
that has been set in it.  Items with a single value are overwritten, lists
grow.  `lxc.environment` is the first list that a start sets, so only a start
that fails there or before leaves nothing behind for the next.
-/

namespace Anbox.Lxc.LxcContainer

open Anbox.Foundation.Interruptible
open Anbox.Foundation.Runs

/--
A start that ends before it has set a list: the process is not run by root,
there is no handle, or LXC refuses an item up to `lxc.environment`.
-/
def FailsEarly (settings : Settings) (container : Container) : Call → Prop
  | .start environment _ =>
      environment.uid ≠ 0 ∨ openHandle environment container = none ∨
        ∃ item ∈ leadingItems settings ++ [environmentItem],
          ¬Accepted environment item
  | .stop _ => True
  | .exits => True

section

variable {settings : Settings} {environment : Environment}
variable {configuration : Configuration} {container : Container}

/-! ## What a start leaves in the handle -/

theorem setConfigItems_of_accepted {items : List ConfigItem}
    (accepted : ∀ item ∈ items, Accepted environment item)
    (config : Config) :
    setConfigItems settings environment items config =
      .ok PUnit.unit (items.foldl (setItem settings.build) config) := by
  induction items generalizing config with
  | nil => rfl
  | cons item items inductionHypothesis =>
      have head : environment.accepts item.1 item.2 = true :=
        accepted item List.mem_cons_self
      have tail := inductionHypothesis fun later member =>
        accepted later (List.mem_cons_of_mem item member)
      change EStateM.bind (setConfigItem settings environment item.1 item.2)
        (fun _ => setConfigItems settings environment items) config = _
      simp only [EStateM.bind, setConfigItem, if_pos head]
      exact tail _

/-- Where the first items are accepted the rest of the items is reached. -/
theorem configure_of_accepted
    (accepted : ∀ item ∈ leadingItems settings ++ [environmentItem],
      Accepted environment item) (config : Config) :
    configure settings environment configuration config =
      configureRest settings environment configuration
        ((leadingItems settings ++ [environmentItem]).foldl
          (setItem settings.build) config) := by
  have leading := @setConfigItems_of_accepted settings environment _
    (fun item member => accepted item (List.mem_append_left _ member)) config
  have last := @setConfigItems_of_accepted settings environment
    [environmentItem]
    (fun item member => accepted item (List.mem_append_right _ member))
    ((leadingItems settings).foldl (setItem settings.build) config)
  rw [List.foldl_append]
  simp only [configure, Bind.bind, EStateM.bind, leading, last]

/-- The items that are in the handle afterwards, also if some are refused. -/
def Leaves (settings : Settings) (environment : Environment)
    (configuration : Configuration) (written : List ConfigItem) : Prop :=
  ∀ config,
    configure settings environment configuration config =
        .ok PUnit.unit (written.foldl (setItem settings.build) config) ∨
      ∃ error, configure settings environment configuration config =
        .error error (written.foldl (setItem settings.build) config)

theorem leaves_environment_of_accepted
    (accepted : ∀ item ∈ leadingItems settings ++ [environmentItem],
      Accepted environment item) :
    ∃ written, Leaves settings environment configuration written ∧
      environmentItem ∈ written := by
  rcases @configureRest_sets settings environment configuration with
    ⟨rest, ⟨-, value, ends⟩ | ⟨error, written, -, -, ends⟩⟩
  · refine ⟨leadingItems settings ++ [environmentItem] ++ rest, ?_,
      by simp⟩
    intro config
    left
    rw [configure_of_accepted accepted, ends, ← List.foldl_append]
  · refine ⟨leadingItems settings ++ [environmentItem] ++ written, ?_,
      by simp⟩
    intro config
    right
    refine ⟨error, ?_⟩
    rw [configure_of_accepted accepted, ends, ← List.foldl_append]

theorem leaves_leading_of_refused {refused : ConfigItem}
    (member : refused ∈ leadingItems settings ++ [environmentItem])
    (isRefused : ¬Accepted environment refused) :
    ∃ written, Leaves settings environment configuration written ∧
      written <+: leadingItems settings := by
  rcases @configure_sets settings environment configuration with
    ⟨rest, -, ⟨accepted, -⟩ | ⟨error, written, isPrefix, accepted, ends⟩⟩
  · refine absurd (accepted refused ?_) isRefused
    rw [List.append_cons]
    exact List.mem_append_left rest member
  · refine ⟨written, fun config => Or.inr ⟨error, ends config⟩, ?_⟩
    have absent : refused ∉ written := fun inside =>
      isRefused (accepted refused inside)
    rcases List.mem_append.mp member with leading | last
    · rcases List.append_of_mem leading with ⟨before, behind, split⟩
      rw [split, List.append_assoc, List.cons_append] at isPrefix
      rw [split]
      exact (written_before isPrefix absent).trans
        (List.prefix_append before _)
    · obtain rfl := List.mem_singleton.mp last
      exact written_before isPrefix absent

/-! ## Over a history -/

theorem start_config_of_leaves {written : List ConfigItem} {config : Config}
    (root : environment.uid = 0)
    (opened : openHandle environment container = some config)
    (leaves : Leaves settings environment configuration written) :
    (start settings environment configuration container).2.config =
      some (written.foldl (setItem settings.build) config) := by
  simp only [start, root, ne_eq, not_true_eq_false, if_false, opened]
  rcases leaves config with ended | ⟨error, ended⟩
  · rw [ended]
    dsimp only
    split
    · rfl
    · split <;> rfl
  · rw [ended]

/-- Only items with a single value have been set. -/
def OnlyLeading (settings : Settings) (container : Container) : Prop :=
  ∀ config, container.config = some config →
    ∀ key, (∀ item ∈ leadingItems settings, item.1 ≠ key) →
      config key = []

/-- A list has been set. -/
def EnvironmentSet (container : Container) : Prop :=
  ∃ config, container.config = some config ∧
    config environmentItem.1 ≠ []

theorem OnlyLeading.openHandle_eq_nil {config : Config}
    (onlyLeading : OnlyLeading settings container)
    (opened : openHandle environment container = some config)
    {key : String} (absent : ∀ item ∈ leadingItems settings, item.1 ≠ key) :
    config key = [] := by
  unfold openHandle at opened
  split at opened
  · rename_i old present
    cases opened
    exact onlyLeading config present key absent
  · split at opened
    · cases opened
      rfl
    · cases opened

theorem stop_config (succeeds : Bool) :
    (stop succeeds container).2.config = container.config := by
  unfold stop
  split
  · rfl
  · split <;> rfl

theorem listValued_environment :
    listValued settings.build environmentItem.1 = true := by
  simp [listValued, environmentItem]

theorem listValued_leading (settings : Settings) :
    ∀ item ∈ leadingItems settings,
      listValued settings.build item.1 = false := by
  rcases settings with ⟨⟨lxc2Support, snapConfinement⟩, -⟩
  simp only [leadingItems, List.forall_mem_cons, listValued, Build.keys]
  cases lxc2Support <;>
    simp [lxc2ConfigKeys, lxcConfigKeys]

theorem exists_leaves (settings : Settings) (environment : Environment)
    (configuration : Configuration) :
    ∃ written, Leaves settings environment configuration written := by
  rcases @configure_sets settings environment configuration with
    ⟨rest, -, ⟨-, value, ends⟩ | ⟨error, written, -, -, ends⟩⟩
  · exact ⟨_, fun config => Or.inl (ends config)⟩
  · exact ⟨written, fun config => Or.inr ⟨error, ends config⟩⟩

theorem start_of_not_root (user : environment.uid ≠ 0) :
    (start settings environment configuration container).2 = container := by
  simp only [start, if_pos user]

theorem start_of_no_handle
    (missing : openHandle environment container = none) :
    (start settings environment configuration container).2 = container := by
  unfold start
  split
  · rfl
  · rw [missing]

/-- What fails early leaves no list behind. -/
theorem OnlyLeading.preserved (call : Call)
    (onlyLeading : OnlyLeading settings container)
    (failsEarly : FailsEarly settings container call) :
    OnlyLeading settings (step settings container call) := by
  cases call with
  | stop succeeds =>
      intro config present
      exact onlyLeading config ((stop_config succeeds).symm.trans present)
  | exits => exact onlyLeading
  | start environment configuration =>
      simp only [step]
      by_cases user : environment.uid ≠ 0
      · rwa [start_of_not_root user]
      cases opened : openHandle environment container with
      | none => rwa [start_of_no_handle opened]
      | some old =>
          rcases failsEarly with user' | missing | ⟨item, member, refused⟩
          · exact absurd user' user
          · rw [missing] at opened
            cases opened
          rcases @leaves_leading_of_refused settings environment
            configuration item member refused with ⟨written, leaves, isPrefix⟩
          intro config present key absent
          rw [start_config_of_leaves (not_not.mp user) opened leaves] at present
          cases present
          rw [foldl_setItem_of_notMem fun item inside =>
            absent item (isPrefix.subset inside)]
          exact onlyLeading.openHandle_eq_nil opened absent

theorem foldl_environment_ne_nil {config : Config}
    {written : List ConfigItem}
    (set : config environmentItem.1 ≠ [] ∨ environmentItem ∈ written) :
    written.foldl (setItem settings.build) config environmentItem.1 ≠ [] := by
  rw [foldl_setItem_of_listValued listValued_environment]
  rcases set with before | now
  · simp [before]
  · intro empty
    have none := (List.append_eq_nil_iff.mp empty).2
    rw [List.map_eq_nil_iff, List.filter_eq_nil_iff] at none
    exact none environmentItem now (by simp)

/-- What does not fail early leaves a list behind. -/
theorem environmentSet_of_not_failsEarly (call : Call)
    (late : ¬FailsEarly settings container call) :
    EnvironmentSet (step settings container call) := by
  cases call with
  | stop succeeds => exact absurd trivial late
  | exits => exact absurd trivial late
  | start environment configuration =>
      simp only [FailsEarly, not_or, not_exists, not_and, not_not, ne_eq]
        at late
      rcases late with ⟨root, handle, accepted⟩
      rcases Option.ne_none_iff_exists'.mp handle with ⟨old, opened⟩
      rcases @leaves_environment_of_accepted settings environment
        configuration accepted with ⟨written, leaves, member⟩
      exact ⟨_, start_config_of_leaves root opened leaves,
        foldl_environment_ne_nil (Or.inr member)⟩

theorem EnvironmentSet.preserved (call : Call)
    (environmentSet : EnvironmentSet container) :
    EnvironmentSet (step settings container call) := by
  rcases environmentSet with ⟨old, present, set⟩
  cases call with
  | stop succeeds => exact ⟨old, (stop_config succeeds).trans present, set⟩
  | exits => exact ⟨old, present, set⟩
  | start environment configuration =>
      simp only [step]
      by_cases user : environment.uid ≠ 0
      · rw [start_of_not_root user]
        exact ⟨old, present, set⟩
      have opened : openHandle environment container = some old := by
        simp [openHandle, present]
      rcases exists_leaves settings environment configuration with
        ⟨written, leaves⟩
      exact ⟨_, start_config_of_leaves (not_not.mp user) opened leaves,
        foldl_environment_ne_nil (Or.inl set)⟩

/-- If no list was left behind, a start overwrites what was. -/
theorem OnlyLeading.foldl_eq {old : Config} (rest : List ConfigItem)
    (onlyLeading : OnlyLeading settings container)
    (opened : openHandle environment container = some old) :
    (leadingItems settings ++ rest).foldl (setItem settings.build) old =
      (leadingItems settings ++ rest).foldl (setItem settings.build)
        Config.empty := by
  funext key
  by_cases leading : ∃ item ∈ leadingItems settings, item.1 = key
  · rcases leading with ⟨item, member, rfl⟩
    exact foldl_setItem_congr (listValued_leading settings item member)
      (Or.inr ⟨item, List.mem_append_left _ member, rfl⟩)
  · have empty : old key = [] := by
      refine onlyLeading.openHandle_eq_nil opened fun item member same => ?_
      exact leading ⟨item, member, same⟩
    cases isList : listValued settings.build key with
    | true =>
        rw [foldl_setItem_of_listValued isList,
          foldl_setItem_of_listValued isList, empty]
        rfl
    | false => exact foldl_setItem_congr isList (Or.inl empty)

/-- A start does not get rid of a list that was left behind. -/
theorem EnvironmentSet.foldl_ne {old : Config} (items : List ConfigItem)
    (environmentSet : EnvironmentSet container)
    (opened : openHandle environment container = some old) :
    items.foldl (setItem settings.build) old ≠
      items.foldl (setItem settings.build) Config.empty := by
  rcases environmentSet with ⟨present, isPresent, nonempty⟩
  have presentEq : old = present := by
    simp only [openHandle, isPresent, Option.some_inj] at opened
    exact opened.symm
  intro same
  have lists := congrFun same environmentItem.1
  rw [foldl_setItem_of_listValued listValued_environment,
    foldl_setItem_of_listValued listValued_environment,
    List.append_cancel_right_eq] at lists
  exact nonempty (presentEq ▸ lists)

theorem configAtSave_eq_some_iff {config : Config} :
    configAtSave settings environment configuration container =
        some config ↔
      environment.uid = 0 ∧
        ∃ old value, openHandle environment container = some old ∧
          configure settings environment configuration old =
            .ok value config := by
  unfold configAtSave
  split
  · rename_i user
    constructor
    · intro none
      cases none
    · intro reached
      exact absurd reached.1 user
  · rename_i root
    cases opened : openHandle environment container with
    | none => simp
    | some old =>
        cases ended : configure settings environment configuration old with
        | error error next => simp [ended]
        | ok value next => simp [ended, not_not.mp root]

/--
The configuration of a start is that of a fresh object exactly if every
earlier start on the object has failed before it could set a list.
-/
theorem restart_configuration_fresh_iff (settings : Settings)
    (stillRunning : Bool) (history : List Call) (environment : Environment)
    (configuration : Configuration) (config : Config)
    (reached :
      configAtSave settings environment configuration
        (after settings stillRunning history) = some config) :
    configAtSave settings { environment with creates := true }
          configuration (Container.initial stillRunning) = some config ↔
      Admitted (step settings) (FailsEarly settings)
        (Container.initial stillRunning) history := by
  rcases configAtSave_eq_some_iff.mp reached with
    ⟨root, old, value, opened, ended⟩
  rcases @configure_sets settings environment configuration with
    ⟨rest, -, sets⟩
  rcases sets.ok ended with ⟨-, ends⟩
  have configEq : config = (leadingItems settings ++ environmentItem ::
      rest).foldl (setItem settings.build) old := by
    have same := (ends old).symm.trans ended
    injection same with _ configEq
    exact configEq.symm
  have freshEq : configAtSave settings { environment with creates := true }
      configuration (Container.initial stillRunning) =
        some ((leadingItems settings ++ environmentItem :: rest).foldl
          (setItem settings.build) Config.empty) :=
    configAtSave_eq_some_iff.mpr
      ⟨root, Config.empty, value, rfl, ends Config.empty⟩
  rw [freshEq, Option.some_inj, configEq]
  constructor
  · intro same
    by_contra notAdmitted
    have set : EnvironmentSet (after settings stillRunning history) :=
      reached_of_not_admitted
        (fun container call => environmentSet_of_not_failsEarly call)
        (fun container call => EnvironmentSet.preserved call) notAdmitted
    exact set.foldl_ne _ opened same.symm
  · intro admitted
    have onlyLeading : OnlyLeading settings
        (after settings stillRunning history) :=
      admitted.invariant
        (fun container call => OnlyLeading.preserved call)
        (fun config present => by cases present)
    exact (onlyLeading.foldl_eq _ opened).symm

end

/-! ## A second start -/

def plainConfiguration : Configuration :=
  { bindMounts := [], devices := [], extraProperties := [] }

/-- A first start fails because LXC does not know `lxc.environment`. -/
theorem restart_configuration_fresh_iff_refused :
    let history : List Call :=
      [.start { plainEnvironment with accepts :=
        fun key _ => key != environmentItem.1 } plainConfiguration]
    ∃ config,
      configAtSave plainSettings plainEnvironment plainConfiguration
          (after plainSettings false history) = some config ∧
        configAtSave plainSettings plainEnvironment plainConfiguration
          (Container.initial false) = some config := by
  intro history
  have isSome :
      (configAtSave plainSettings plainEnvironment plainConfiguration
        (after plainSettings false history)).isSome = true := by
    decide +kernel
  rcases Option.isSome_iff_exists.mp isSome with ⟨config, reached⟩
  refine ⟨config, reached,
    (restart_configuration_fresh_iff plainSettings false history
      plainEnvironment plainConfiguration config reached).mpr
      ⟨Or.inr (Or.inr ⟨environmentItem, by simp, ?_⟩), trivial⟩⟩
  simp [Accepted]

/-- After a start and a stop every list has its entries twice. -/
theorem second_start_doubles_lists :
    let history : List Call :=
      [.start plainEnvironment plainConfiguration, .stop true]
    ∃ config,
      configAtSave plainSettings plainEnvironment plainConfiguration
          (after plainSettings false history) = some config ∧
        configAtSave plainSettings plainEnvironment plainConfiguration
          (Container.initial false) ≠ some config ∧
        config "lxc.idmap" =
          getIdMap 100000 100000 ++ getIdMap 100000 100000 ∧
        (config "lxc.mount.entry").length = 20 := by
  intro history
  have lists :
      (configAtSave plainSettings plainEnvironment plainConfiguration
        (after plainSettings false history)).map (fun config =>
          (config "lxc.idmap", (config "lxc.mount.entry").length)) =
        some (getIdMap 100000 100000 ++ getIdMap 100000 100000, 20) := by
    decide +kernel
  have fresh :
      (configAtSave plainSettings plainEnvironment plainConfiguration
        (Container.initial false)).map (fun config =>
          (config "lxc.mount.entry").length) = some 10 := by
    decide +kernel
  rcases Option.map_eq_some_iff.mp lists with ⟨config, reached, values⟩
  rcases Prod.mk.inj values with ⟨idMap, mounts⟩
  refine ⟨config, reached, ?_, idMap, mounts⟩
  intro same
  rw [same, Option.map_some, mounts] at fresh
  cases fresh

end Anbox.Lxc.LxcContainer
