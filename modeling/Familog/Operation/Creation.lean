import Familog.Operation.Response

/-!
Contract: how much of a family is there when its creation has ended.

Owns the two tracks on which `createTapped` goes on once the Family document has been
written, the channel and the membership of the creator, and the exact condition
under which all three or none of them are there in the end. Nothing is rolled back:
once the Family document is written, every failure leaves a part of the family behind.

Does not own other clients: the operation has the store to itself.
-/

set_option autoImplicit false

namespace Familog.Operation

open Async Firestore Swift LogInPage

/-! ## What is there -/

section Presence

variable (form : CanonicalForm) (uid : Uid) (familyName familyId : String) (store : Store)

/-- Nothing of the family is there: no Family document, no channel, no membership. -/
structure Absent : Prop where
  family : store.familyNamed familyId = none
  channel : ∀ key data, store.channels.get? key = some data → data.string? "id" ≠ some familyId
  families : ∀ families, store.familiesOf uid = some families → ¬ form.Contains families familyId
  current : store.familyIdOf uid ≠ some familyId

/-- The family is there: its document, exactly one channel with its id and name, and the
membership of its creator. -/
structure Present : Prop where
  family : ∃ data, store.familyNamed familyId = some data ∧
    transformFamily data = ⟨some familyName, some familyId⟩
  channel : ∃ key data, store.channels.get? key = some data ∧
    Channel.ofDocument? data = some ⟨some familyId, familyName⟩ ∧
    ∀ other data', store.channels.get? other = some data' →
      data'.string? "id" = some familyId → other = key
  families : ∃ families, store.familiesOf uid = some families ∧ form.Contains families familyId
  current : store.familyIdOf uid = some familyId

end Presence

/-! ## The two tracks -/

/-- Where a track has got to: it goes on, it has done its write, one of its requests has
failed, or the user document was not there or had no families. -/
inductive Progress where
  | going
  | done
  | failed
  | unreadable
deriving DecidableEq

section Tracks

variable (setting : Setting) (store : Store) (familyName familyId : String)

/-- The track of the channel: its pending requests and the channels. -/
inductive ChannelTrack : Progress → List Task → Collection String → Prop where
  | going : ChannelTrack .going [.create (.addDocument familyName familyId)] store.channels
  | done {key} : store.channels.get? key = none →
      ChannelTrack .done []
        (store.channels.set key (Channel.mk (some familyId) familyName).representation)
  | failed : ChannelTrack .failed [] store.channels

/-- The track of the membership: its pending requests and the users. -/
inductive MemberTrack : Progress → List Task → Collection Uid → Prop where
  | reading : MemberTrack .going [.create (.append familyId .getDocument)] store.users
  | received {data} : store.users.get? setting.user = some data →
      MemberTrack .going [.create (.append familyId (.received data))] store.users
  | writing {data families newFamilies} : store.users.get? setting.user = some data →
      data.strings? "families" = some families →
      IsSetArray setting.form (families ++ [familyId]) newFamilies →
      MemberTrack .going [.create (.append familyId (.updateData families newFamilies))] store.users
  | done {data families newFamilies} : store.users.get? setting.user = some data →
      data.strings? "families" = some families →
      IsSetArray setting.form (families ++ [familyId]) newFamilies →
      MemberTrack .done []
        (store.users.set setting.user (AppendFamily.updated data familyId newFamilies))
  | failed : MemberTrack .failed [] store.users
  | unreadable : store.familiesOf setting.user = none → MemberTrack .unreadable [] store.users

variable {setting store familyName familyId} {current : Store} {task : Task} {answer : Answer}
  {outcome : Outcome Task} {progress : Progress}

/-- An answer on the track of the channel. -/
theorem channel_step {channels : Collection String} (same : current.channels = channels)
    (track : ChannelTrack store familyName familyId progress [task] channels)
    (responded : respond setting current task answer = some outcome) :
    outcome.store.users = current.users ∧ outcome.store.families = current.families ∧
      outcome.next = [] ∧ ∃ after,
        ChannelTrack store familyName familyId after [] outcome.store.channels ∧
          (after = .failed ↔ isFailed answer = true) := by
  cases track
  obtain ⟨result, resumed, rfl⟩ := Option.map_eq_some_iff.mp responded
  cases CreateFamily.resume_eq_some.mp resumed with
  | channelUnsaved =>
      refine ⟨rfl, rfl, rfl, .failed, ?_, by simp [isFailed]⟩
      show ChannelTrack store familyName familyId .failed [] current.channels
      rw [same]
      exact .failed
  | @channelAdded _ _ key unused =>
      refine ⟨rfl, rfl, rfl, .done, ?_, by simp [isFailed]⟩
      show ChannelTrack store familyName familyId .done [] (current.channels.set key _)
      rw [same] at unused ⊢
      exact .done unused

/-- The read-modify-write of the creator's document, inside its operation. -/
theorem append_resumed {step : AppendFamily.Task}
    (responded : respond setting current (.create (.append familyId step)) answer =
      some outcome) :
    ∃ result, AppendFamily.resume setting.form CreateFamily.texts current setting.user familyId
        step answer = some result ∧
      outcome = (result.lift (.append familyId)).lift .create := by
  obtain ⟨lifted, created, rfl⟩ := Option.map_eq_some_iff.mp responded
  obtain ⟨result, resumed, rfl⟩ := Option.map_eq_some_iff.mp created
  exact ⟨result, resumed, rfl⟩

/-- An answer on the track of the membership. -/
theorem member_step {users : Collection Uid} (same : current.users = users)
    (track : MemberTrack setting store familyId progress [task] users)
    (responded : respond setting current task answer = some outcome) :
    outcome.store.channels = current.channels ∧ outcome.store.families = current.families ∧
      ∃ after, MemberTrack setting store familyId after outcome.next outcome.store.users ∧
        (after = .failed ↔ isFailed answer = true) := by
  have stays : ∀ {after next}, MemberTrack setting store familyId after next store.users →
      current.users = store.users →
      MemberTrack setting store familyId after next current.users := by
    intro after next track same
    rw [same]
    exact track
  cases track with
  | reading =>
      obtain ⟨result, resumed, rfl⟩ := append_resumed responded
      cases AppendFamily.resume_eq_some.mp resumed with
      | unread => exact ⟨rfl, rfl, .failed, stays .failed same, by simp [isFailed]⟩
      | missing absent =>
          rw [same] at absent
          refine ⟨rfl, rfl, .unreadable, stays (.unreadable ?_) same, by simp [isFailed]⟩
          rw [Store.familiesOf, absent]
          rfl
      | read found =>
          rw [same] at found
          exact ⟨rfl, rfl, .going, stays (.received found) same, by simp [isFailed]⟩
  | received stored =>
      obtain ⟨result, resumed, rfl⟩ := append_resumed responded
      cases AppendFamily.resume_eq_some.mp resumed with
      | trapped unreadable =>
          refine ⟨rfl, rfl, .unreadable, stays (.unreadable ?_) same, by simp [isFailed]⟩
          rw [Store.familiesOf, stored]
          exact unreadable
      | arrayMade found array =>
          exact ⟨rfl, rfl, .going, stays (.writing stored found array) same, by simp [isFailed]⟩
  | writing stored found array =>
      obtain ⟨result, resumed, rfl⟩ := append_resumed responded
      cases AppendFamily.resume_eq_some.mp resumed with
      | unwritten => exact ⟨rfl, rfl, .failed, stays .failed same, by simp [isFailed]⟩
      | written there =>
          rw [same] at there
          obtain rfl := Option.some.inj (stored.symm.trans there)
          refine ⟨rfl, rfl, .done, ?_, by simp [isFailed]⟩
          show MemberTrack setting store familyId .done [] (current.users.set _ _)
          rw [same]
          exact .done stored found array

/-- The ways in which the track of the channel can have ended. -/
theorem channel_ended {tasks : List Task} {channels : Collection String}
    (track : ChannelTrack store familyName familyId progress tasks channels) (ended : tasks = []) :
    (progress = .done ∧ ∃ key, store.channels.get? key = none ∧
        channels =
          store.channels.set key (Channel.mk (some familyId) familyName).representation) ∨
      progress = .failed ∧ channels = store.channels := by
  cases track with
  | going => simp at ended
  | done unused => exact Or.inl ⟨rfl, _, unused, rfl⟩
  | failed => exact Or.inr ⟨rfl, rfl⟩

/-- The ways in which the track of the membership can have ended. -/
theorem member_ended {tasks : List Task} {users : Collection Uid}
    (track : MemberTrack setting store familyId progress tasks users) (ended : tasks = []) :
    (progress = .done ∧ ∃ data families newFamilies,
        store.users.get? setting.user = some data ∧
        data.strings? "families" = some families ∧
        IsSetArray setting.form (families ++ [familyId]) newFamilies ∧
        users = store.users.set setting.user (AppendFamily.updated data familyId newFamilies)) ∨
      (progress = .failed ∧ users = store.users) ∨
      progress = .unreadable ∧ store.familiesOf setting.user = none ∧ users = store.users := by
  cases track with
  | done stored found array => exact Or.inl ⟨rfl, _, _, _, stored, found, array, rfl⟩
  | failed => exact Or.inr (Or.inl ⟨rfl, rfl⟩)
  | unreadable unreadable => exact Or.inr (Or.inr ⟨rfl, unreadable, rfl⟩)
  | _ => simp at ended

/-- The requests of the two tracks are no write of the Family document, and at most one
is pending on each. -/
theorem tasks_of_channelTrack {tasks : List Task} {channels : Collection String}
    (track : ChannelTrack store familyName familyId progress tasks channels)
    (member : task ∈ tasks) :
    tasks = [task] ∧ task ≠ .create (.setData familyName familyId) := by
  cases track with
  | going =>
      rw [List.mem_singleton.mp member]
      exact ⟨rfl, by simp⟩
  | _ => simp at member

theorem tasks_of_memberTrack {tasks : List Task} {users : Collection Uid}
    (track : MemberTrack setting store familyId progress tasks users) (member : task ∈ tasks) :
    tasks = [task] ∧ task ≠ .create (.setData familyName familyId) := by
  cases track with
  | reading | received _ | writing _ _ _ =>
      rw [List.mem_singleton.mp member]
      exact ⟨rfl, by simp⟩
  | _ => simp at member

end Tracks

/-! ## The course of a creation -/

section Course

variable (setting : Setting) (store : Store) (familyName familyId : String) (path : DocumentPath)

/-- One of the requests has failed. -/
def SomeFailed (answered : List (Task × Answer)) : Prop :=
  ∃ entry ∈ answered, isFailed entry.2 = true

/-- The write of the Family document has failed. -/
def FamilyFailed (answered : List (Task × Answer)) : Prop :=
  ∃ entry ∈ answered, entry.1 = .create (.setData familyName familyId) ∧ isFailed entry.2 = true

/-- Where the operation can be: before the answer to the write of the Family document,
ended by its failure, or on the two tracks. -/
inductive Course (config : Config State Task) : Prop where
  | tapped : config.pool.tasks = [.create (.setData familyName familyId)] →
      config.state.store = store → config.state.answered = [] → Course config
  | refused : config.pool.tasks = [] → config.state.store = store →
      FamilyFailed familyName familyId config.state.answered → Course config
  | running {channel member channelTasks memberTasks} :
      config.pool.tasks.Perm (channelTasks ++ memberTasks) →
      config.state.store.families = store.families.set path (familyData familyName familyId) →
      ChannelTrack store familyName familyId channel channelTasks config.state.store.channels →
      MemberTrack setting store familyId member memberTasks config.state.store.users →
      (SomeFailed config.state.answered ↔ channel = .failed ∨ member = .failed) →
      ¬ FamilyFailed familyName familyId config.state.answered → Course config

variable {setting store familyName familyId path} {config next : Config State Task}

/-- One more answered request, on a track that has not failed. -/
theorem someFailed_append {answered : List (Task × Answer)} {task : Task} {answer : Answer} :
    SomeFailed (answered ++ [(task, answer)]) ↔
      SomeFailed answered ∨ isFailed answer = true := by
  simp [SomeFailed, or_and_right, exists_or]

theorem not_familyFailed_append {answered : List (Task × Answer)} {task : Task}
    {answer : Answer} (before : ¬ FamilyFailed familyName familyId answered)
    (other : task ≠ .create (.setData familyName familyId)) :
    ¬ FamilyFailed familyName familyId (answered ++ [(task, answer)]) := by
  rintro ⟨entry, member, isSetData, failed⟩
  rcases List.mem_append.mp member with old | new
  · exact before ⟨entry, old, isSetData, failed⟩
  · rw [List.mem_singleton.mp new] at isSetData
    exact other isSetData

/-- The answer to the write of the Family document. -/
theorem course_of_tapped {ticket : ℕ} {answer : Answer} {task : Task} {outcome : Outcome Task}
    (named : document? familyId = some path)
    (tasks : config.pool.tasks = [.create (.setData familyName familyId)])
    (unchanged : config.state.store = store) (none : config.state.answered = [])
    (found : config.pool.find? ticket = some task)
    (responded : respond setting config.state.store task answer = some outcome)
    (state : next.state = ⟨outcome.store, config.state.notices ++ outcome.notices,
      config.state.answered ++ [(task, answer)]⟩)
    (pending : next.pool.tasks = (config.pool.remove ticket).tasks ++ outcome.next) :
    Course setting store familyName familyId path next := by
  obtain ⟨rfl, rest⟩ := Pool.only_of_find? tasks found
  rw [rest, List.nil_append] at pending
  obtain ⟨result, resumed, rfl⟩ := Option.map_eq_some_iff.mp responded
  rw [unchanged] at resumed
  cases CreateFamily.resume_eq_some.mp resumed with
  | unsaved =>
      refine .refused pending (by rw [state]; rfl) ?_
      rw [state]
      exact ⟨_, List.mem_append_right _ (List.mem_singleton_self _), rfl, rfl⟩
  | saved there =>
      obtain rfl := Option.some.inj (named.symm.trans there)
      have channels : ChannelTrack store familyName familyId .going
          [.create (.addDocument familyName familyId)] next.state.store.channels := by
        rw [state]
        exact .going
      have users : MemberTrack setting store familyId .going
          [.create (.append familyId .getDocument)] next.state.store.users := by
        rw [state]
        exact .reading
      refine .running (by rw [pending]; exact List.Perm.refl _) (by rw [state]; rfl) channels users
        ?_ ?_
      · rw [state, none]
        simp [SomeFailed, isFailed]
      · rw [state, none]
        simp [FamilyFailed, isFailed]

/-- The creation stays on its course with every answer. -/
theorem course_step {label : Label Event Answer} (named : document? familyId = some path)
    (course : Course setting store familyName familyId path config) (answers : label.IsAnswer)
    (taken : (program setting).step config label = some next) :
    Course setting store familyName familyId path next := by
  rcases operation_step taken with
    ⟨_, _, _, event, rfl⟩ |
    ⟨ticket, answer, task, outcome, rfl, found, _, responded, state, pending⟩
  · exact answers.elim
  · cases course with
    | tapped tasks unchanged none =>
        exact course_of_tapped named tasks unchanged none found responded state pending
    | refused tasks _ _ =>
        have waiting := Pool.mem_tasks_of_find? found
        simp [tasks] at waiting
    | @running channel member channelTasks memberTasks tasks families channels users failures
        family =>
        have removed := (Pool.tasks_perm_of_find? found).symm.trans tasks
        have store' : next.state.store = outcome.store := by rw [state]
        have answered : next.state.answered = config.state.answered ++ [(task, answer)] := by
          rw [state]
        rcases List.mem_append.mp (removed.mem_iff.mp List.mem_cons_self) with onChannel | onMember
        · obtain ⟨rfl, other⟩ := tasks_of_channelTrack channels onChannel
          obtain ⟨sameUsers, sameFamilies, none, after, track, failed⟩ :=
            channel_step rfl channels responded
          have fresh : channel ≠ .failed := by
            rintro rfl
            cases channels
          have rest : (config.pool.remove ticket).tasks.Perm memberTasks := removed.cons_inv
          refine .running ?_ (by rw [store', sameFamilies, families])
            (store' ▸ track) (show MemberTrack setting store familyId member memberTasks _ by
              rw [store', sameUsers]
              exact users) ?_ (answered ▸ not_familyFailed_append family other)
          · rw [pending, none, List.append_nil]
            exact rest
          · rw [answered, someFailed_append, failures, failed, or_iff_right fresh]
            exact or_comm
        · obtain ⟨rfl, other⟩ := tasks_of_memberTrack users onMember
          obtain ⟨sameChannels, sameFamilies, after, track, failed⟩ :=
            member_step rfl users responded
          have fresh : member ≠ .failed := by
            rintro rfl
            cases users
          have rest : (config.pool.remove ticket).tasks.Perm channelTasks :=
            (removed.trans List.perm_append_comm).cons_inv
          refine .running ?_ (by rw [store', sameFamilies, families])
            (show ChannelTrack store familyName familyId channel channelTasks _ by
              rw [store', sameChannels]
              exact channels) (store' ▸ track) ?_ (answered ▸ not_familyFailed_append family other)
          · rw [pending]
            exact rest.append_right _
          · rw [answered, someFailed_append, failures, failed, or_iff_left fresh]

/-! ## All or nothing -/

/-- The condition on the two texts, the creator's document and the failures: nothing is
written at all, or nothing fails. -/
def NothingOrAllSucceeds (setting : Setting) (store : Store) (familyNameText familyIdText : String)
    (answered : List (Task × Answer)) : Prop :=
  trimmingCharacters familyNameText = "" ∨ document? familyIdText = none ∨
    FamilyFailed (trimmingCharacters familyNameText) familyIdText answered ∨
    ¬ SomeFailed answered ∧ (store.familiesOf setting.user).isSome = true

/-- What the two tracks have left behind, if both have done their writes. -/
theorem present_of_done {after : Store} {key : String} {data : Fields}
    {families newFamilies : List String} (fresh : Absent setting.form setting.user familyId store)
    (named : document? familyId = some path)
    (familiesSet : after.families = store.families.set path (familyData familyName familyId))
    (channelsSet : after.channels =
      store.channels.set key (Channel.mk (some familyId) familyName).representation)
    (array : IsSetArray setting.form (families ++ [familyId]) newFamilies)
    (usersSet : after.users =
      store.users.set setting.user (AppendFamily.updated data familyId newFamilies)) :
    Present setting.form setting.user familyName familyId after where
  family := by
    refine ⟨familyData familyName familyId, ?_, rfl⟩
    rw [Store.familyNamed, named, familiesSet]
    exact Collection.get?_set_self _ _ _
  channel := by
    refine ⟨key, _, by rw [channelsSet]; exact Collection.get?_set_self _ _ _, rfl, ?_⟩
    intro other data' stored hasId
    by_contra different
    rw [channelsSet, Collection.get?_set_of_ne _ _ different] at stored
    exact fresh.channel other data' stored hasId
  families := by
    refine ⟨newFamilies, ?_, array.contains_appended⟩
    rw [Store.familiesOf, usersSet, Collection.get?_set_self]
    exact AppendFamily.updated_families data familyId newFamilies
  current := by
    rw [Store.familyIdOf, usersSet, Collection.get?_set_self]
    rfl

/-- When the two tracks have ended, all or nothing is there exactly if both have done
their writes. -/
theorem present_or_absent_iff {after : Store} {channel member : Progress}
    (fresh : Absent setting.form setting.user familyId store)
    (named : document? familyId = some path)
    (families : after.families = store.families.set path (familyData familyName familyId))
    (channels : ChannelTrack store familyName familyId channel [] after.channels)
    (users : MemberTrack setting store familyId member [] after.users) :
    Present setting.form setting.user familyName familyId after ∨
        Absent setting.form setting.user familyId after ↔
      channel = .done ∧ member = .done := by
  have there : after.familyNamed familyId ≠ none := by
    rw [Store.familyNamed, named, families]
    simp
  rcases channel_ended channels rfl with ⟨rfl, key, _, channelsSet⟩ | ⟨rfl, sameChannels⟩
  · rcases member_ended users rfl with
      ⟨rfl, data, _, _, _, _, array, usersSet⟩ | ⟨rfl, sameUsers⟩ | ⟨rfl, _, sameUsers⟩
    · exact iff_of_true
        (Or.inl (present_of_done fresh named families channelsSet array usersSet)) ⟨rfl, rfl⟩
    all_goals
      refine iff_of_false ?_ (by simp)
      rintro (present | absent)
      · obtain ⟨found, isFound, contained⟩ := present.families
        rw [Store.familiesOf, sameUsers] at isFound
        exact fresh.families found isFound contained
      · exact there absent.family
  · refine iff_of_false ?_ (by simp)
    rintro (present | absent)
    · obtain ⟨key, data, stored, decoded, _⟩ := present.channel
      rw [sameChannels] at stored
      apply fresh.channel key data stored
      simp only [Channel.ofDocument?, Option.bind_eq_bind, Option.bind_eq_some_iff,
        Option.some.injEq, Channel.mk.injEq] at decoded
      obtain ⟨_, _, id, hasId, isId, _⟩ := decoded
      rw [hasId, isId]
    · exact there absent.family

/-- Both tracks have done their writes exactly if nothing has failed and the creator's
document had its families. -/
theorem done_iff {after : Store} {channel member : Progress} {answered : List (Task × Answer)}
    (channels : ChannelTrack store familyName familyId channel [] after.channels)
    (users : MemberTrack setting store familyId member [] after.users)
    (failures : SomeFailed answered ↔ channel = .failed ∨ member = .failed) :
    channel = .done ∧ member = .done ↔
      ¬ SomeFailed answered ∧ (store.familiesOf setting.user).isSome = true := by
  rw [failures]
  rcases channel_ended channels rfl with ⟨rfl, _⟩ | ⟨rfl, _⟩
  · rcases member_ended users rfl with
      ⟨rfl, data, found, _, stored, isFound, _⟩ | ⟨rfl, _⟩ | ⟨rfl, unreadable, _⟩
    · refine iff_of_true ⟨rfl, rfl⟩ ⟨by simp, ?_⟩
      rw [Store.familiesOf, stored, Option.bind_some, isFound]
      rfl
    · simp
    · simp [unreadable]
  · simp

/-- When a creation has ended on its course, all or nothing is there exactly if the write of
the Family document failed, or no request failed and the creator's document had its
families. -/
theorem present_or_absent_of_course (fresh : Absent setting.form setting.user familyId store)
    (named : document? familyId = some path)
    (course : Course setting store familyName familyId path config)
    (ended : config.pool.tasks = []) :
    Present setting.form setting.user familyName familyId config.state.store ∨
        Absent setting.form setting.user familyId config.state.store ↔
      FamilyFailed familyName familyId config.state.answered ∨
        ¬ SomeFailed config.state.answered ∧ (store.familiesOf setting.user).isSome = true := by
  cases course with
  | tapped pending _ _ => simp [pending] at ended
  | refused _ unchanged failed =>
      rw [unchanged]
      exact iff_of_true (Or.inr fresh) (Or.inl failed)
  | @running channel member channelTasks memberTasks pending families channels users failures
      family =>
      rw [ended, List.nil_perm, List.append_eq_nil_iff] at pending
      obtain ⟨rfl, rfl⟩ := pending
      rw [present_or_absent_iff fresh named families channels users, or_iff_right family]
      exact done_iff channels users failures

/-- When the creation of a family with a fresh id has ended, all of the family or nothing
of it is there, exactly if nothing was to be written, the write of the Family document
failed, or no request failed and the creator's document had its families. -/
theorem all_or_nothing_iff (setting : Setting) (store : Store)
    (familyNameText familyIdText : String)
    (fresh : Absent setting.form setting.user familyIdText store)
    {labels : List (Label Event Answer)} {last : Config State Task}
    (alone : ∀ label ∈ labels, label.IsAnswer)
    (ran : (program setting).run
      (begun setting store (.createTapped familyNameText familyIdText)) labels = some last)
    (ended : last.pool.tasks = []) :
    Present setting.form setting.user (trimmingCharacters familyNameText) familyIdText
          last.state.store ∨
        Absent setting.form setting.user familyIdText last.state.store ↔
      NothingOrAllSucceeds setting store familyNameText familyIdText last.state.answered := by
  have tasks : (begun setting store (.createTapped familyNameText familyIdText)).pool.tasks =
      (tapped setting (.createTapped familyNameText familyIdText)).1 := by
    rw [begun, Pool.tasks_issueAll, Pool.tasks_empty, List.nil_append]
  have idle : (tapped setting (.createTapped familyNameText familyIdText)).1 = [] →
      Absent setting.form setting.user familyIdText last.state.store := by
    intro none
    rw [Program.run_idle (tasks.trans none) alone ran]
    exact fresh
  by_cases empty : trimmingCharacters familyNameText = ""
  · exact iff_of_true (Or.inr (idle (by simp [tapped, CreateFamily.createTapped, empty])))
      (Or.inl empty)
  · cases named : document? familyIdText with
    | none =>
        exact iff_of_true
          (Or.inr (idle (by simp [tapped, CreateFamily.createTapped, empty, named])))
          (Or.inr (Or.inl named))
    | some path =>
        have condition : NothingOrAllSucceeds setting store familyNameText familyIdText
            last.state.answered ↔
              FamilyFailed (trimmingCharacters familyNameText) familyIdText last.state.answered ∨
                ¬ SomeFailed last.state.answered ∧
                  (store.familiesOf setting.user).isSome = true := by
          simp [NothingOrAllSucceeds, empty, named]
        simp only [tapped, CreateFamily.createTapped, empty, if_false, named] at tasks
        have course : Course setting store (trimmingCharacters familyNameText) familyIdText path
            last := by
          refine Program.run_invariant
            (Course setting store (trimmingCharacters familyNameText) familyIdText path)
            (fun course answers taken => course_step named course answers taken)
            (.tapped tasks rfl rfl) (Program.obeys_of_forall_mem alone) ran
        rw [condition]
        exact present_or_absent_of_course fresh named course ended

end Course

/-! ## Sample runs -/

/-- A creator who has signed up, in a store that has nothing else. -/
def signedUpStore : Store :=
  { Store.empty with
    users := (Store.empty.users).set asciiSetting.user
      (userData "a@host" "userA" asciiSetting.user) }

theorem absent_signedUpStore :
    Absent asciiSetting.form asciiSetting.user "abc" signedUpStore where
  family := rfl
  channel := fun key data found => by simp [signedUpStore, Store.empty] at found
  families := by
    intro families found
    obtain rfl : [] = families := Option.some.inj found
    simp [CanonicalForm.Contains]
  current := by decide

/-- A creation in which no request fails leaves all of the family. -/
theorem all_or_nothing_iff_created :
    ∃ last, (program asciiSetting).run
        (begun asciiSetting signedUpStore (.createTapped "Fam" "abc"))
        [.answer 0 .succeeded, .answer 1 (.assigned "channel"), .answer 2 .succeeded,
          .answer 3 (.listed ["abc"]), .answer 4 .succeeded] = some last ∧
      (Present asciiSetting.form asciiSetting.user (trimmingCharacters "Fam") "abc"
          last.state.store ∨
        Absent asciiSetting.form asciiSetting.user "abc" last.state.store) := by
  have computed : ∃ last, (program asciiSetting).run
      (begun asciiSetting signedUpStore (.createTapped "Fam" "abc"))
      [.answer 0 .succeeded, .answer 1 (.assigned "channel"), .answer 2 .succeeded,
        .answer 3 (.listed ["abc"]), .answer 4 .succeeded] = some last ∧
      (last.pool.tasks.length = 0 ∧ ∀ entry ∈ last.state.answered, isFailed entry.2 = false) :=
    Program.exists_run (by decide)
  obtain ⟨last, ran, ended, acknowledged⟩ := computed
  refine ⟨last, ran, (all_or_nothing_iff asciiSetting signedUpStore "Fam" "abc"
    absent_signedUpStore (by simp [Label.IsAnswer]) ran (List.length_eq_zero_iff.mp ended)).mpr
    (Or.inr (Or.inr (Or.inr ⟨?_, rfl⟩)))⟩
  rintro ⟨entry, answered, failed⟩
  rw [acknowledged entry answered] at failed
  exact absurd failed (by decide)

/-- A creation in which every request but the first fails leaves a Family document that
has no channel and no member. -/
theorem family_left_without_channel :
    Absent asciiSetting.form asciiSetting.user "abc" signedUpStore ∧
      ∃ last, (program asciiSetting).run
        (begun asciiSetting signedUpStore (.createTapped "Fam" "abc"))
        [.answer 0 .succeeded, .answer 1 .failed, .answer 2 .failed] = some last ∧
      last.pool.tasks = [] ∧
      ¬ Present asciiSetting.form asciiSetting.user "Fam" "abc" last.state.store ∧
      ¬ Absent asciiSetting.form asciiSetting.user "abc" last.state.store := by
  have computed : ∃ last, (program asciiSetting).run
      (begun asciiSetting signedUpStore (.createTapped "Fam" "abc"))
      [.answer 0 .succeeded, .answer 1 .failed, .answer 2 .failed] = some last ∧
      (last.pool.tasks.length = 0 ∧ (last.state.store.familyNamed "abc").isSome = true ∧
        last.state.store.familyIdOf asciiSetting.user = some "") :=
    Program.exists_run (by decide)
  obtain ⟨last, ran, ended, family, current⟩ := computed
  refine ⟨absent_signedUpStore, last, ran, List.length_eq_zero_iff.mp ended,
    fun present => ?_, fun absent => ?_⟩
  · have isCurrent := present.current
    rw [current] at isCurrent
    exact absurd isCurrent (by decide)
  · rw [absent.family] at family
    exact absurd family (by decide)

end Familog.Operation
