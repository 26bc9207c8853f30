import Familog.Store

/-!
Contract: what `TimelineViewController` asks of the store.

Owns `getFamilyId`, which sends a user without a family to the family page, and
the two reads behind `load` and `loadPosts`: the current user's document, then
the posts of its family.

Does not own the arrays the rows are shown from.
-/

set_option autoImplicit false

namespace Familog.MainPage.Timeline

open Firestore

/-- The screens between which the guard decides. -/
inductive Screen where
  | tabBar
  | familyPage
deriving DecidableEq

inductive Task where
  | getFamilyId
  | observeCurrentUser
  | getPosts (familyId : String)

/-- What one callback leaves behind: the screen it moves to and the posts it was
given, besides the outcome. -/
structure Loading where
  move : Option Screen
  posts : List Fields
  outcome : Outcome Task

/-- `observePostsByFamily`: the posts whose `familyId` is the given text. Being ordered by
`timestamp`, the query leaves out documents without one. -/
def postsByFamily (store : Store) (familyId : String) : List Fields :=
  (store.posts.documents.map Prod.snd).filter fun data =>
    decide (data.string? "familyId" = some familyId ∧ (data "timestamp").isSome)

/-- Run the callback of one step. -/
def resume (store : Store) (uid : Uid) : Task → Answer → Option Loading
  | .getFamilyId, .failed => some ⟨none, [], .ends store []⟩
  | .getFamilyId, .succeeded =>
      match store.users.get? uid with
      | none => some ⟨none, [], .ends store []⟩
      | some data =>
          match data.string? "familyId" with
          | none => some ⟨none, [], .ends store [.trap]⟩
          | some familyId =>
              some ⟨if familyId = "" then some .familyPage else none, [], .ends store []⟩
  | .observeCurrentUser, .failed => some ⟨none, [], .ends store []⟩
  | .observeCurrentUser, .succeeded =>
      match store.users.get? uid with
      | none => some ⟨none, [], .ends store []⟩
      | some data =>
          match (transformUser data).bind User.familyId with
          | none => some ⟨none, [], .ends store [.trap]⟩
          | some familyId => some ⟨none, [], .issues store [.getPosts familyId]⟩
  | .getPosts _, .failed => some ⟨none, [], .ends store []⟩
  | .getPosts familyId, .succeeded => some ⟨none, postsByFamily store familyId, .ends store []⟩
  | _, _ => none

/-! ## What a step can do -/

/-- One constructor for each branch of the callbacks. -/
inductive Resumed (store : Store) (uid : Uid) : Task → Answer → Loading → Prop where
  | familyUnread : Resumed store uid .getFamilyId .failed ⟨none, [], .ends store []⟩
  | familyMissing : store.users.get? uid = none →
      Resumed store uid .getFamilyId .succeeded ⟨none, [], .ends store []⟩
  | familyTrapped {data} : store.users.get? uid = some data →
      data.string? "familyId" = none →
      Resumed store uid .getFamilyId .succeeded ⟨none, [], .ends store [.trap]⟩
  | familyRead {data familyId} : store.users.get? uid = some data →
      data.string? "familyId" = some familyId →
      Resumed store uid .getFamilyId .succeeded
        ⟨if familyId = "" then some .familyPage else none, [], .ends store []⟩
  | userUnread : Resumed store uid .observeCurrentUser .failed ⟨none, [], .ends store []⟩
  | userMissing : store.users.get? uid = none →
      Resumed store uid .observeCurrentUser .succeeded ⟨none, [], .ends store []⟩
  | userTrapped {data} : store.users.get? uid = some data →
      (transformUser data).bind User.familyId = none →
      Resumed store uid .observeCurrentUser .succeeded ⟨none, [], .ends store [.trap]⟩
  | userRead {data familyId} : store.users.get? uid = some data →
      (transformUser data).bind User.familyId = some familyId →
      Resumed store uid .observeCurrentUser .succeeded
        ⟨none, [], .issues store [.getPosts familyId]⟩
  | postsUnread {familyId} :
      Resumed store uid (.getPosts familyId) .failed ⟨none, [], .ends store []⟩
  | postsRead {familyId} : Resumed store uid (.getPosts familyId) .succeeded
      ⟨none, postsByFamily store familyId, .ends store []⟩

theorem resumed_of_resume {store : Store} {uid : Uid} {task : Task} {answer : Answer}
    {loading : Loading} (resumed : resume store uid task answer = some loading) :
    Resumed store uid task answer loading := by
  cases task with
  | getFamilyId =>
      cases answer with
      | failed =>
          obtain rfl := Option.some.inj resumed
          exact .familyUnread
      | succeeded =>
          simp only [resume] at resumed
          split at resumed
          · next absent =>
              obtain rfl := Option.some.inj resumed
              exact .familyMissing absent
          · next data found =>
              split at resumed
              · next unreadable =>
                  obtain rfl := Option.some.inj resumed
                  exact .familyTrapped found unreadable
              · next familyId stored =>
                  obtain rfl := Option.some.inj resumed
                  exact .familyRead found stored
      | _ => simp [resume] at resumed
  | observeCurrentUser =>
      cases answer with
      | failed =>
          obtain rfl := Option.some.inj resumed
          exact .userUnread
      | succeeded =>
          simp only [resume] at resumed
          split at resumed
          · next absent =>
              obtain rfl := Option.some.inj resumed
              exact .userMissing absent
          · next data found =>
              split at resumed
              · next unreadable =>
                  obtain rfl := Option.some.inj resumed
                  exact .userTrapped found unreadable
              · next familyId decoded =>
                  obtain rfl := Option.some.inj resumed
                  exact .userRead found decoded
      | _ => simp [resume] at resumed
  | getPosts familyId =>
      cases answer with
      | failed =>
          obtain rfl := Option.some.inj resumed
          exact .postsUnread
      | succeeded =>
          obtain rfl := Option.some.inj resumed
          exact .postsRead
      | _ => simp [resume] at resumed

end Familog.MainPage.Timeline
