import CallAudio.Config.Document
import CallAudio.Proofs.Except
import Mathlib.Data.List.Perm.Basic

/-! What a JSON object says about a configuration. Each setting is read under its own key alone, and the
first setting of a bad value is reported. -/
namespace CallAudio

/-- The settings of a configuration. -/
inductive Setting
  | logLevel
  | connectionTimeout
  | transitionTimeout
  | retryBackoff
  | headsetBindTimeout
  | logCapacity
deriving DecidableEq

inductive SettingValue
  | level (level : LogLevel)
  | span (span : Duration)
  | count (n : UInt64)
deriving DecidableEq

namespace Setting

/-- The order in which values are checked. -/
def inOrder : List Setting :=
  [logLevel, connectionTimeout, transitionTimeout, retryBackoff, headsetBindTimeout, logCapacity]

def key : Setting → String
  | logLevel => "log_level"
  | connectionTimeout => "connection_timeout_ms"
  | transitionTimeout => "transition_timeout_ms"
  | retryBackoff => "retry_backoff_ms"
  | headsetBindTimeout => "headset_bind_timeout_ms"
  | logCapacity => "local_log_capacity"

/-- What a value means, if it is one for the setting: the name of a level, or else an unsigned number of
64 bits. -/
def value? : Setting → Json → Option SettingValue
  | logLevel, .string name => (LogLevel.ofName? name).map .level
  | logLevel, _ => none
  | logCapacity, .number (.natural n) => some (.count n)
  | _, .number (.natural n) => some (.span (.ofMillis n))
  | _, _ => none

def field (c : RouteConfig) : Setting → SettingValue
  | logLevel => .level c.logLevel
  | connectionTimeout => .span c.connectionTimeout
  | transitionTimeout => .span c.transitionTimeout
  | retryBackoff => .span c.retryBackoff
  | headsetBindTimeout => .span c.headsetBindTimeout
  | logCapacity => .count c.logCapacity

def refusal : Setting → Json → ConfigError
  | logLevel => .badLogLevel
  | logCapacity => .badLogCapacity
  | _ => .badMilliseconds

variable (members : List (String × Json))

/-- The setting as the members have it. -/
def read (s : Setting) : Except ConfigError SettingValue :=
  RouteConfig.valueOf s.value? s.refusal (s.field {}) (Json.member? s.key members)

end Setting

namespace RouteConfig

variable {α β : Type} {meaning : Json → Option α} {refusal : Json → ConfigError} {fallback : α}
  {given : Option Json}

theorem valueOf_eq_ok {x : α} : valueOf meaning refusal fallback given = .ok x ↔
    given = none ∧ x = fallback ∨ ∃ v, given = some v ∧ meaning v = some x := by
  cases given with
  | none => simp [valueOf, eq_comm]
  | some v => cases h : meaning v <;> simp [valueOf, h]

theorem valueOf_eq_error {e : ConfigError} : valueOf meaning refusal fallback given = .error e ↔
    ∃ v, given = some v ∧ meaning v = none ∧ e = refusal v := by
  cases given with
  | none => simp [valueOf]
  | some v => cases h : meaning v <;> simp [valueOf, h, eq_comm]

theorem valueOf_map (kind : α → β) {other : Json → Option β} (h : ∀ v, other v = (meaning v).map kind) :
    valueOf other refusal (kind fallback) given = kind <$> valueOf meaning refusal fallback given := by
  cases given with
  | none => rfl
  | some v =>
    unfold valueOf
    dsimp only
    rw [h]
    cases meaning v <;> rfl

end RouteConfig

namespace Setting

variable (members : List (String × Json))

theorem value?_level (v : Json) :
    logLevel.value? v = (v.text?.bind LogLevel.ofName?).map .level := by
  cases v <;> rfl

theorem value?_count (v : Json) : logCapacity.value? v = v.natural?.map .count := by
  cases v with
  | number n => cases n <;> rfl
  | _ => rfl

theorem read_logLevel : logLevel.read members =
    SettingValue.level <$> RouteConfig.levelOf .info (Json.member? "log_level" members) :=
  RouteConfig.valueOf_map _ value?_level

theorem read_logCapacity : logCapacity.read members =
    SettingValue.count <$> RouteConfig.capacityOf 20 (Json.member? "local_log_capacity" members) :=
  RouteConfig.valueOf_map _ value?_count

theorem value?_span (s : Setting) (level : s ≠ logLevel) (count : s ≠ logCapacity) (v : Json) :
    s.value? v = (v.natural?.map Duration.ofMillis).map .span := by
  cases s with
  | logLevel => exact absurd rfl level
  | logCapacity => exact absurd rfl count
  | _ =>
    cases v with
    | number n => cases n <;> rfl
    | _ => rfl

/-- The spans of time are all read alike. -/
theorem read_span {s : Setting} (level : s ≠ logLevel) (count : s ≠ logCapacity) {fallback : Duration}
    (default : s.field {} = .span fallback) (refusal : s.refusal = .badMilliseconds) : s.read members =
      SettingValue.span <$> RouteConfig.millisOf fallback (Json.member? s.key members) := by
  unfold read
  rw [default, refusal]
  exact RouteConfig.valueOf_map _ (value?_span s level count)

/-- The settings are read in order, up to the first that fails. -/
theorem ofMembers_eq : (fun c => inOrder.map (field c)) <$> RouteConfig.ofMembers members =
    inOrder.mapM (read members) := by
  have connection := read_span members (s := connectionTimeout) nofun nofun rfl rfl
  have transition := read_span members (s := transitionTimeout) nofun nofun rfl rfl
  have retry := read_span members (s := retryBackoff) nofun nofun rfl rfl
  have bind := read_span members (s := headsetBindTimeout) nofun nofun rfl rfl
  unfold RouteConfig.ofMembers inOrder
  simp only [List.mapM_cons, List.mapM_nil, read_logLevel, read_logCapacity, connection, transition,
    retry, bind, map_bind, bind_map_left, bind_pure_comp, Functor.map_map]
  rfl

theorem field_inj {c d : RouteConfig} (h : inOrder.map (field c) = inOrder.map (field d)) : c = d := by
  simp only [inOrder, field, List.map_cons, List.cons.injEq, SettingValue.level.injEq,
    SettingValue.span.injEq, SettingValue.count.injEq] at h
  obtain ⟨level, connection, transition, retry, bind, capacity, -⟩ := h
  cases c
  cases d
  dsimp only at *
  subst level connection transition retry bind capacity
  rfl

theorem mem_inOrder (s : Setting) : s ∈ inOrder := by
  cases s <;> decide

end Setting

namespace Setting

variable {members : List (String × Json)}

/-- The members give the setting a value that it cannot have. -/
def Refused (members : List (String × Json)) (s : Setting) (v : Json) : Prop :=
  Json.member? s.key members = some v ∧ s.value? v = none

/-- The value is that of the first setting that is refused. -/
def FirstRefused (members : List (String × Json)) (s : Setting) (v : Json) : Prop :=
  ∃ before after, inOrder = before ++ s :: after ∧ (∀ t ∈ before, ∀ w, ¬t.Refused members w) ∧
    s.Refused members v

/-- The configuration has the setting as given, or by default. -/
def Heeded (members : List (String × Json)) (c : RouteConfig) (s : Setting) : Prop :=
  match Json.member? s.key members with
  | none => s.field c = s.field {}
  | some v => s.value? v = some (s.field c)

/-- How the refusal of a value begins. -/
def complaint : Setting → String
  | logLevel => "bad log_level "
  | logCapacity => "bad local_log_capacity "
  | _ => "expected milliseconds, got "

theorem message_refusal (s : Setting) (v : Json) :
    (s.refusal v).message = s.complaint ++ v.compact := by
  cases s <;> rfl

theorem read_eq_ok {s : Setting} {c : RouteConfig} :
    s.read members = .ok (s.field c) ↔ s.Heeded members c := by
  unfold read Heeded
  rw [RouteConfig.valueOf_eq_ok]
  cases Json.member? s.key members <;> simp

theorem read_eq_error {s : Setting} {e : ConfigError} :
    s.read members = .error e ↔ ∃ v, s.Refused members v ∧ e = s.refusal v := by
  unfold read Refused
  rw [RouteConfig.valueOf_eq_error]
  simp only [and_assoc]

theorem exists_read_iff {s : Setting} :
    (∃ x, s.read members = .ok x) ↔ ∀ v, ¬s.Refused members v := by
  cases outcome : s.read members with
  | ok x =>
    refine ⟨fun _ v refused => ?_, fun _ => ⟨x, rfl⟩⟩
    have failed := read_eq_error.mpr ⟨v, refused, rfl⟩
    rw [outcome] at failed
    cases failed
  | error e =>
    obtain ⟨v, refused, -⟩ := read_eq_error.mp outcome
    exact ⟨nofun, fun fine => absurd refused (fine v)⟩

end Setting

namespace RouteConfig

open Setting

variable {members : List (String × Json)}

theorem ofMembers_eq_ok {c : RouteConfig} :
    ofMembers members = .ok c ↔ ∀ s : Setting, s.Heeded members c := by
  have run := Setting.ofMembers_eq members
  constructor
  · intro h s
    rw [h] at run
    have each := Except.mapM_eq_ok.mp run.symm
    rw [List.forall₂_map_right_iff, List.forall₂_same] at each
    exact read_eq_ok.mp (each s s.mem_inOrder)
  · intro heeded
    have each : inOrder.mapM (read members) = .ok (inOrder.map (field c)) := by
      rw [Except.mapM_eq_ok, List.forall₂_map_right_iff, List.forall₂_same]
      exact fun s _ => read_eq_ok.mpr (heeded s)
    rw [each] at run
    cases outcome : ofMembers members with
    | error e =>
      rw [outcome] at run
      cases run
    | ok d =>
      rw [outcome] at run
      exact congrArg Except.ok (field_inj (Except.ok.inj run))

theorem ofMembers_eq_error {e : ConfigError} :
    ofMembers members = .error e ↔ ∃ s v, FirstRefused members s v ∧ e = s.refusal v := by
  have run := Setting.ofMembers_eq members
  have failure : ofMembers members = .error e ↔ inOrder.mapM (read members) = .error e := by
    rw [← run]
    cases ofMembers members with
    | error _ => exact ⟨fun h => by cases h; rfl, fun h => by cases h; rfl⟩
    | ok _ => exact ⟨nofun, nofun⟩
  rw [failure, Except.mapM_eq_error]
  constructor
  · rintro ⟨before, s, after, split, fine, failed⟩
    obtain ⟨v, refused, rfl⟩ := read_eq_error.mp failed
    exact ⟨s, v, ⟨before, after, split, fun t member => exists_read_iff.mp (fine t member), refused⟩, rfl⟩
  · rintro ⟨s, v, ⟨before, after, split, fine, refused⟩, rfl⟩
    exact ⟨before, s, after, split, fun t member => exists_read_iff.mpr (fine t member),
      read_eq_error.mpr ⟨v, refused, rfl⟩⟩

theorem exists_ofMembers_iff :
    (∃ c, ofMembers members = .ok c) ↔ ∀ (s : Setting) v, ¬s.Refused members v := by
  cases outcome : ofMembers members with
  | ok c =>
    refine ⟨fun _ s => ?_, fun _ => ⟨c, rfl⟩⟩
    exact exists_read_iff.mp ⟨_, read_eq_ok.mpr (ofMembers_eq_ok.mp outcome s)⟩
  | error e =>
    obtain ⟨s, v, ⟨_, _, _, _, refused⟩, -⟩ := ofMembers_eq_error.mp outcome
    exact ⟨nofun, fun fine => absurd refused (fine s v)⟩

/-- Only the settings' own members count. -/
theorem ofMembers_congr {others : List (String × Json)}
    (h : ∀ s : Setting, Json.member? s.key others = Json.member? s.key members) :
    ofMembers others = ofMembers members := by
  cases outcome : ofMembers members with
  | ok c =>
    have heeded := ofMembers_eq_ok.mp outcome
    refine ofMembers_eq_ok.mpr fun s => ?_
    unfold Heeded
    rw [h s]
    exact heeded s
  | error e =>
    have reported := ofMembers_eq_error.mp outcome
    apply ofMembers_eq_error.mpr
    simp only [FirstRefused, Refused, h]
    exact reported

end RouteConfig

theorem Json.member?_eq_some {key : String} {value : Json} {members : List (String × Json)}
    (distinct : (members.map Prod.fst).Nodup) :
    member? key members = some value ↔ (key, value) ∈ members := by
  induction members with
  | nil => exact ⟨nofun, nofun⟩
  | cons first rest ih =>
    obtain ⟨k, v⟩ := first
    obtain ⟨fresh, apart⟩ := List.nodup_cons.mp distinct
    unfold member?
    rw [List.mem_cons, Prod.mk.injEq]
    by_cases same : k = key
    · subst same
      have absent : (k, value) ∉ rest := fun member => fresh (List.mem_map.mpr ⟨_, member, rfl⟩)
      simp [absent, eq_comm]
    · rw [if_neg same, ih apart]
      simp [Ne.symm same]

theorem Json.member?_perm {members others : List (String × Json)} (perm : members.Perm others)
    (distinct : (members.map Prod.fst).Nodup) (key : String) :
    member? key others = member? key members := by
  have apart := (perm.map Prod.fst).nodup_iff.mp distinct
  apply Option.ext
  intro value
  rw [member?_eq_some apart, member?_eq_some distinct, perm.mem_iff]

namespace RouteConfig

/-- A configuration is read from an object exactly if every setting that is given has a value of its kind,
and then it has each setting as given, or else by default; otherwise the first setting in order that has
not is reported with its value. No other member counts, nor does the order of the members; and what is no
object gives no configuration. -/
theorem settings_read (members : List (String × Json)) :
    ((∃ c, ofJson (.object members) = .ok c) ↔
        ∀ (s : Setting) v, Json.member? s.key members = some v → ∃ x, s.value? v = some x) ∧
      (∀ c, ofJson (.object members) = .ok c ↔ ∀ s : Setting, s.Heeded members c) ∧
      (∀ e, ofJson (.object members) = .error e ↔ ∃ (s : Setting) (v : Json),
        s.FirstRefused members v ∧ e = s.refusal v ∧ e.message = s.complaint ++ v.compact) ∧
      (∀ others, (∀ s : Setting, Json.member? s.key others = Json.member? s.key members) →
        ofJson (.object others) = ofJson (.object members)) ∧
      (∀ others, members.Perm others → (members.map Prod.fst).Nodup →
        ofJson (.object others) = ofJson (.object members)) ∧
      (∀ document, (∀ given, document ≠ .object given) → ofJson document = .error .notAnObject) ∧
      ∀ text, ofText text = match Json.parse? text with
        | some document => (ofJson document).mapError .config
        | none => .error .notJson := by
  refine ⟨exists_ofMembers_iff.trans ⟨?_, ?_⟩, fun _ => ofMembers_eq_ok, fun e => ?_,
    fun _ => ofMembers_congr, ?_, ?_, fun text => ?_⟩
  · intro fine s v given
    exact Option.ne_none_iff_exists'.mp fun none => fine s v ⟨given, none⟩
  · rintro meant s v ⟨given, none⟩
    obtain ⟨x, some⟩ := meant s v given
    rw [none] at some
    cases some
  · refine ofMembers_eq_error.trans ⟨?_, ?_⟩
    · rintro ⟨s, v, first, rfl⟩
      exact ⟨s, v, first, rfl, s.message_refusal v⟩
    · rintro ⟨s, v, first, same, -⟩
      exact ⟨s, v, first, same⟩
  · intro others perm distinct
    exact ofMembers_congr fun s => Json.member?_perm perm distinct s.key
  · intro document other
    cases document with
    | object given => exact absurd rfl (other given)
    | _ => rfl
  · unfold ofText
    cases Json.parse? text <;> rfl

/-- Two settings are refused, and only the first is reported, whatever its place. -/
theorem settings_read_of_refused :
    let members : List (String × Json) := [("local_log_capacity", .string "5"),
      ("log_level", .string "Debug"), ("retry_backoff_ms", .number (.negative 4)), ("volume", .null)]
    Json.member? "retry_backoff_ms" members = some (.number (.negative 4)) ∧
      ofJson (.object members) = .error (.badMilliseconds (.number (.negative 4))) ∧
      (ConfigError.badMilliseconds (.number (.negative 4))).message = "expected milliseconds, got -4" ∧
      ofJson (.object members.reverse) = ofJson (.object members) := by
  intro members
  obtain ⟨-, -, refused, -, perm, -⟩ := settings_read members
  refine ⟨rfl, (refused _).mpr ⟨.retryBackoff, .number (.negative 4), ?_, rfl, rfl⟩, ?_, ?_⟩
  · refine ⟨[.logLevel, .connectionTimeout, .transitionTimeout], [.headsetBindTimeout, .logCapacity],
      rfl, ?_, rfl, rfl⟩
    rintro t member w ⟨given, none⟩
    simp only [List.mem_cons, List.not_mem_nil, or_false] at member
    rcases member with rfl | rfl | rfl
    · cases given
      cases none
    · cases given
    · cases given
  · rfl
  · exact perm _ members.reverse_perm.symm (by decide)

end RouteConfig

end CallAudio
