import BookmarkSearch.Saved.Database

/-!
What can be done with a store, one operation after the other, and what it answers.
-/

namespace BookmarkSearch.Saved

/-- What is done with saved queries. To reopen is to read the file of the store again. -/
inductive Operation where
  | save (s : SavedQuery)
  | get (id : Nat)
  | remove (id : Nat)
  | list
  | clear
  | reopen

inductive Reply where
  | saved (id : Option Nat)
  | found (s : SavedQuery)
  | removed
  | listed (entries : List (Nat × SavedQuery))
  | cleared (count : Nat)
  | reopened
  | failed (cause : StoreError)
  /-- The file cannot be read. -/
  | lost
deriving DecidableEq

def Reply.ofResult {α : Type} (reply : α → Reply) : Except StoreError α → Reply
  | .ok a => reply a
  | .error cause => .failed cause

namespace Operation

def isSave : Operation → Bool
  | .save _ => true
  | _ => false

theorem countP_isSave_cons (op : Operation) (ops : List Operation) :
    (op :: ops).countP isSave = op.isSave.toNat + ops.countP isSave := by
  cases here : op.isSave <;> simp [here, Nat.add_comm]

def added : Operation → Reply → Option (Nat × SavedQuery)
  | .save s, .saved (some id) => some (id, s)
  | _, _ => none

end Operation

def performAll {State : Type} (perform : State → Operation → Reply × State) (state : State) :
    List Operation → List Reply × State
  | [] => ([], state)
  | op :: ops =>
    let done := perform state op
    let later := performAll perform done.2 ops
    (done.1 :: later.1, later.2)

def savings (ops : List Operation) (replies : List Reply) : List (Nat × SavedQuery) :=
  (ops.zip replies).filterMap fun done => done.1.added done.2

theorem savings_cons (op : Operation) (ops : List Operation) (reply : Reply)
    (replies : List Reply) :
    savings (op :: ops) (reply :: replies) = (op.added reply).toList ++ savings ops replies := by
  cases addition : op.added reply <;> simp [savings, addition]

namespace Store

def perform (store : Store) : Operation → Reply × Store
  | .save s => (.ofResult .saved (store.save s).1, (store.save s).2)
  | .get id => (.ofResult .found (store.get id), store)
  | .remove id => (.ofResult (fun _ => .removed) (store.remove id).1, (store.remove id).2)
  | .list => (.ofResult .listed store.list, store)
  | .clear => (.cleared store.clear.1, store.clear.2)
  | .reopen =>
    match decode? store.encode with
    | some again => (.reopened, again)
    | none => (.lost, store)

end Store

end BookmarkSearch.Saved
