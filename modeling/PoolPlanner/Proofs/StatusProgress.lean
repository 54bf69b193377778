import PoolPlanner.Proofs.StatusMerging

/-!
# Progress of status writes

A status that is written should tell something new, so that it is not written again for the same
report.  That holds unless the present status has a condition of the reported type that was observed
later: then the report is merged without effect, and written all the same, time and again.
-/

namespace PoolPlanner

/-- A condition without its time of observation. -/
def Condition.untimed (condition : Condition) : Condition :=
  { condition with observed := none }

/-- Whether a condition reports the same as another, whenever each was observed. -/
structure Condition.Repeats (condition other : Condition) : Prop where
  type : condition.type = other.type
  state : condition.state = other.state
  reason : condition.reason = other.reason
  message : condition.message = other.message

theorem Condition.saysSame_of_untimed_eq {first second : Condition}
    (same : first.untimed = second.untimed) : first.saysSame second = true := by
  simp only [untimed, Condition.mk.injEq] at same
  exact saysSame_iff.2 ⟨same.2.1, same.2.2.1, same.2.2.2.1⟩

theorem Condition.Repeats.saysSame_eq {repeated reported : Condition}
    (repeats : repeated.Repeats reported) (shown : Condition) :
    shown.saysSame repeated = shown.saysSame reported := by
  rw [saysSame, saysSame, repeats.state, repeats.reason, repeats.message]

namespace ClusterStatus

def untimed (status : ClusterStatus) : ClusterStatus :=
  { status with conditions := status.conditions.map Condition.untimed }

variable {condition existing : Condition}

theorem condition?_untimed (status : ClusterStatus) (type : String) :
    status.untimed.condition? type = (status.condition? type).map Condition.untimed := by
  rw [condition?, untimed, List.find?_map]
  rfl

/-- A merge leaves all as it is if the first condition of the type was observed later. -/
theorem mergeCondition_of_later {conditions : List Condition}
    (found : (conditions.find? fun other => other.type = condition.type) = some existing)
    (later : Condition.isLater existing.observed condition.observed = true) :
    mergeCondition condition conditions = conditions := by
  induction conditions with
  | nil => cases found
  | cons first rest ih =>
      rw [mergeCondition]
      by_cases same : first.type = condition.type
      · rw [List.find?_cons_of_pos (by simpa using same)] at found
        obtain rfl := Option.some.inj found
        rw [if_pos same, if_pos later]
      · rw [List.find?_cons_of_neg (by simpa using same)] at found
        rw [if_neg same, ih found]

theorem find?_mergeCondition {conditions : List Condition}
    (notLater : ∀ existing,
      (conditions.find? fun other => other.type = condition.type) = some existing →
        Condition.isLater existing.observed condition.observed = false) :
    ((mergeCondition condition conditions).find? fun other => other.type = condition.type) =
      some condition := by
  induction conditions with
  | nil => simp [mergeCondition]
  | cons first rest ih =>
      rw [mergeCondition]
      by_cases same : first.type = condition.type
      · rw [List.find?_cons_of_pos (by simpa using same)] at notLater
        rw [if_pos same, if_neg (by simp [notLater first rfl]), List.find?_cons_of_pos (by simp)]
      · rw [List.find?_cons_of_neg (by simpa using same)] at notLater
        rw [if_neg same, List.find?_cons_of_neg (by simpa using same), ih notLater]

end ClusterStatus

/-- Whether a status that may be absent has a condition of the same type that was observed later. -/
def Condition.IsOutdated (condition : Condition) (current : Option ClusterStatus) : Prop :=
  ∃ existing, (current.getD {}).condition? condition.type = some existing ∧
    isLater existing.observed condition.observed = true

namespace ClusterStatus

variable {current : Option ClusterStatus} {condition : Condition}

theorem conditions_merge_of_outdated (outdated : condition.IsOutdated current) :
    ((current.getD {}).merge [condition]).conditions = (current.getD {}).conditions := by
  obtain ⟨existing, found, later⟩ := outdated
  exact mergeCondition_of_later found later

theorem condition?_merge_of_not_outdated (upToDate : ¬ condition.IsOutdated current) :
    ((current.getD {}).merge [condition]).condition? condition.type = some condition := by
  refine find?_mergeCondition fun existing found => ?_
  by_contra later
  exact upToDate ⟨existing, found, by simpa using later⟩

end ClusterStatus

namespace HookRequest

variable {request later : HookRequest} {current : Option ClusterStatus}
  {condition repeated : Condition} {next : ClusterStatus} {written : Json}

/-- Whether writing a status was of use: it differs from the present one by more than times, and is
not written again for a report of the same. -/
structure MakesProgress (current : Option ClusterStatus) (condition : Condition)
    (written : Json) : Prop where
  changes : ∃ next, ClusterStatus.decode written = .ok next ∧
    ∀ shown ∈ current, next.untimed ≠ shown.untimed
  settles : ∀ later : HookRequest, later.shownStatus? = some written →
    ∀ repeated : Condition, repeated.Repeats condition → later.statusUpdate repeated = none

theorem eq_merge_of_updatedStatus? (watched : request.watchStatus = .ok current)
    (update : request.updatedStatus? condition = some next) :
    next = (current.getD {}).merge [condition] ∧
      ∀ existing, (current.getD {}).condition? condition.type = some existing →
        existing.saysSame condition = false := by
  rw [updatedStatus?, watched] at update
  cases current with
  | none =>
      by_cases isTrue : condition.state = .isTrue
      · refine ⟨(Option.some.inj ((if_pos isTrue).symm.trans update)).symm, ?_⟩
        intro existing found
        cases found
      · cases (if_neg isTrue).symm.trans update
  | some shown =>
      by_cases unchanged : ((shown.condition? condition.type).any
          fun existing => existing.saysSame condition) = true
      · cases (if_pos unchanged).symm.trans update
      · refine ⟨(Option.some.inj ((if_neg unchanged).symm.trans update)).symm, ?_⟩
        intro existing found
        change shown.condition? condition.type = some existing at found
        simpa [found] using unchanged

/-- With the written status in place, what it was written for is reported again without effect,
unless it was outdated when it was merged. -/
theorem updatedStatus?_again_iff (watched : request.watchStatus = .ok current)
    (update : request.updatedStatus? condition = some next)
    (shows : later.shownStatus? = some next.encode) (repeats : repeated.Repeats condition) :
    later.updatedStatus? repeated = none ↔ ¬ condition.IsOutdated current := by
  obtain ⟨rfl, news⟩ := eq_merge_of_updatedStatus? watched update
  have shown : later.watchStatus = .ok (some ((current.getD {}).merge [condition])) :=
    watchStatus_eq_ok shows
  rw [updatedStatus?, shown, repeats.type]
  by_cases outdated : condition.IsOutdated current
  · obtain ⟨existing, found, -⟩ := id outdated
    have stillThere : ((current.getD {}).merge [condition]).condition? condition.type =
        some existing := by
      rw [ClusterStatus.condition?, ClusterStatus.conditions_merge_of_outdated outdated]
      exact found
    have different : existing.saysSame repeated = false :=
      (repeats.saysSame_eq existing).trans (news existing found)
    simp [stillThere, different, outdated]
  · have taken := ClusterStatus.condition?_merge_of_not_outdated outdated
    have same : condition.saysSame repeated = true := by
      rw [repeats.saysSame_eq]
      exact Condition.saysSame_of_untimed_eq rfl
    simp [taken, same, outdated]

theorem untimed_ne_of_not_outdated (watched : request.watchStatus = .ok current)
    (update : request.updatedStatus? condition = some next)
    (upToDate : ¬ condition.IsOutdated current) :
    ∀ shown ∈ current, next.untimed ≠ shown.untimed := by
  obtain ⟨rfl, news⟩ := eq_merge_of_updatedStatus? watched update
  rintro shown ⟨⟩ same
  have taken := ClusterStatus.condition?_merge_of_not_outdated upToDate
  have found : (shown.condition? condition.type).map Condition.untimed =
      some condition.untimed := by
    rw [← ClusterStatus.condition?_untimed, ← same, ClusterStatus.condition?_untimed, taken]
    rfl
  obtain ⟨existing, existingFound, sameButTime⟩ := Option.map_eq_some_iff.1 found
  have alike := Condition.saysSame_of_untimed_eq sameButTime
  simp [news existing existingFound] at alike

theorem exists_shows (status : ClusterStatus) :
    ∃ request : HookRequest, request.shownStatus? = some status.encode := by
  refine ⟨{ watch := .object [("status", status.encode)] }, ?_⟩
  have present : status.encode.isNull = false := by
    rw [ClusterStatus.encode, Json.ofMembers_eq]
    rfl
  simp [shownStatus?, Json.member?, present]

/-- Writing a status is of use just if the report that it was written for was not outdated. -/
theorem statusUpdate_makesProgress_iff (watched : request.watchStatus = .ok current)
    (update : request.statusUpdate condition = some written) :
    MakesProgress current condition written ↔ ¬ condition.IsOutdated current := by
  obtain ⟨next, merged, rfl⟩ := Option.map_eq_some_iff.1 update
  constructor
  · intro progress
    obtain ⟨later, shows⟩ := exists_shows next
    have silent := progress.settles later shows condition ⟨rfl, rfl, rfl, rfl⟩
    refine (updatedStatus?_again_iff watched merged shows ⟨rfl, rfl, rfl, rfl⟩).1 ?_
    exact Option.map_eq_none_iff.1 silent
  · intro upToDate
    refine ⟨⟨next, next.decode_encode, untimed_ne_of_not_outdated watched merged upToDate⟩, ?_⟩
    intro later shows repeated repeats
    exact Option.map_eq_none_iff.2
      ((updatedStatus?_again_iff watched merged shows repeats).2 upToDate)

section Reports

def showing (status : ClusterStatus) : HookRequest where
  watch := .object [("metadata", .object []), ("status", status.encode)]

def failure : Condition where
  type := Condition.reconcileError
  state := .isTrue
  reason := some "ValidationFailed"
  message := some "bad"
  observed := some ⟨⟨2024, 1, 1, 0, 0, 0, 0⟩, by decide⟩

def clearedAt (time : Instant) : ClusterStatus where
  phase := some .online
  conditions := [.resolved Condition.reconcileError time]

/-- A failure after a recovery is told once. -/
theorem failure_makesProgress :
    (showing (clearedAt .epoch)).watchStatus = .ok (some (clearedAt .epoch)) ∧
      ∃ written, (showing (clearedAt .epoch)).statusUpdate failure = some written ∧
        MakesProgress (some (clearedAt .epoch)) failure written := by
  have watched : (showing (clearedAt .epoch)).watchStatus = .ok (some (clearedAt .epoch)) :=
    watchStatus_eq_ok rfl
  have update : (showing (clearedAt .epoch)).statusUpdate failure =
      some (ClusterStatus.merge (clearedAt .epoch) [failure]).encode := by
    rw [statusUpdate, updatedStatus?, watched]
    rfl
  refine ⟨watched, _, update, (statusUpdate_makesProgress_iff watched update).2 ?_⟩
  rintro ⟨existing, found, later⟩
  obtain rfl : _ = existing := Option.some.inj found
  exact absurd later (by decide)

def farAhead : Instant :=
  ⟨⟨2999, 1, 1, 0, 0, 0, 0⟩, by decide⟩

/-- A recovery that seems to lie ahead is not given up for the failure.  The status is written as it
stands there already, and the next time again. -/
theorem clearedAhead_writtenAgain :
    (showing (clearedAt farAhead)).watchStatus = .ok (some (clearedAt farAhead)) ∧
      (showing (clearedAt farAhead)).shownStatus? = some (clearedAt farAhead).encode ∧
      (showing (clearedAt farAhead)).statusUpdate failure = some (clearedAt farAhead).encode ∧
      ¬ MakesProgress (some (clearedAt farAhead)) failure (clearedAt farAhead).encode := by
  have shows : (showing (clearedAt farAhead)).shownStatus? = some (clearedAt farAhead).encode :=
    rfl
  have watched : (showing (clearedAt farAhead)).watchStatus = .ok (some (clearedAt farAhead)) :=
    watchStatus_eq_ok shows
  have update : (showing (clearedAt farAhead)).statusUpdate failure =
      some (clearedAt farAhead).encode := by
    rw [statusUpdate, updatedStatus?, watched]
    rfl
  refine ⟨watched, shows, update, fun progress => ?_⟩
  have silent := progress.settles _ shows failure ⟨rfl, rfl, rfl, rfl⟩
  cases silent.symm.trans update

end Reports

end HookRequest
end PoolPlanner
