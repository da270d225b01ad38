import LatchMutex.Platform
import LatchMutex.Proofs.AttributeCalls

namespace LatchMutex

/-!
# Live attribute objects

An attribute session is a process whose threads make attribute calls, initialize
mutexes, copy handles and switch the safety level in any order, while the rest of
the process does what it likes.  Beside the process it keeps a census: the objects
that successful calls have made and destroyed, as the callers see it from the slots
and the status numbers.

As long as destroyed objects are only passed at the hardened level, the heap and the
registry both hold exactly the live objects of the census, and no call uses an object
that is not there.
-/

/-- The attribute objects that were made and destroyed so far. -/
structure ObjectCensus where
  created : List Address := []
  destroyed : List Address := []
  deriving Repr, DecidableEq, Inhabited

namespace ObjectCensus

/-- An object that was made and not yet destroyed. -/
def Live (census : ObjectCensus) (address : Address) : Prop :=
  address ∈ census.created ∧ address ∉ census.destroyed

instance (census : ObjectCensus) (address : Address) : Decidable (census.Live address) :=
  inferInstanceAs (Decidable (_ ∧ _))

/--
The census after a call.  A successful initialization has left the new object in the
slot, and a successful destruction has destroyed the object that was in it.
-/
def after
    (census : ObjectCensus)
    (before after : Boundary)
    (call : AttributeCall)
    (reply : AttributeReply) :
    ObjectCensus :=
  if reply.status = 0 then
    match call with
    | .init slot =>
        { census with created := (slot.bind after.handle).toList ++ census.created }
    | .destroy slot =>
        { census with destroyed := (slot.bind before.handle).toList ++ census.destroyed }
    | _ => census
  else
    census

end ObjectCensus

/-- What may happen in an attribute session. -/
inductive AttributeEvent where
  | call (me : ThreadId) (request : AttributeCall)
  /-- The initialization of a mutex; no mutex is the null pointer. -/
  | initMutex (me : ThreadId) (mutex : Option HandleId) (slot : Option SlotId)
  | copy (source target : SlotId)
  | switch (level : SafetyLevel)
  /-- Whatever else the process does with its threads and mutexes. -/
  | elsewhere (world : World)
  deriving Repr, DecidableEq

/-- How an event is answered. -/
inductive AttributeAnswer where
  | silent
  | replied (reply : AttributeReply)
  /-- The initialization of a mutex is refused. -/
  | refused (fault : Fault)
  /-- The mutex is initialized, as far as one step goes. -/
  | started (reply : Reply)
  deriving Repr, DecidableEq

/-- Whether an answer finds an argument invalid. -/
def AttributeAnswer.isInvalid : AttributeAnswer → Bool
  | .replied reply => reply.status = Fault.invalidArgument.status
  | .refused fault => fault = .invalidArgument
  | _ => false

namespace AttributeEvent

/-- Object that an event passes to the process: what the slot of the call leads to. -/
def object? (boundary : Boundary) : AttributeEvent → Option Address
  | .call _ request =>
      if request.isInit = true then none else request.slot.bind boundary.handle
  | .initMutex _ (some _) slot => slot.bind boundary.handle
  | _ => none

/-- The refusal of an event for its handle: an invalid argument. -/
def refusal : AttributeEvent → AttributeAnswer
  | .call _ request => .replied request.refusal
  | _ => .refused .invalidArgument

/-- What an event is answered when its slot leads to an object with these attributes. -/
def answerOn (platform : Platform) (attributes : Attributes) : AttributeEvent → AttributeAnswer
  | .call me request =>
      let owner : AttributeHandle := { object := some attributes }
      .replied (owner.perform platform.sharing (platform.world.thread me).budget request).1
  | .initMutex me (some mutex) _ =>
      let overwritten := platform.world.setCell mutex {}
      .started (overwritten.apply me (.call mutex (.create (some attributes)) false)).2
  | _ => .silent

/-- Whether an event is wrong in itself, whatever its slot leads to. -/
def isFlawed : AttributeEvent → Bool
  | .call _ request => request.isFlawed
  | _ => false

end AttributeEvent

/-- A process, the level in force and the objects that were made and destroyed so far. -/
structure AttributeSession where
  platform : Platform
  level : SafetyLevel
  census : ObjectCensus := {}

namespace AttributeSession

/-- A process without attribute objects. -/
def opening (sharing : Bool) (level : SafetyLevel) (world : World) : AttributeSession :=
  { platform := { world, sharing }, level }

/-- The attribute objects and the slots of the callers. -/
def boundary (session : AttributeSession) : Boundary :=
  session.platform.boundary

/-- Let an event happen. -/
def step (session : AttributeSession) :
    AttributeEvent → Except Misuse (AttributeAnswer × AttributeSession)
  | .call me request => do
      let (reply, platform) ← session.platform.callAttribute session.level me request
      let census := session.census.after session.boundary platform.boundary request reply
      pure (.replied reply, { session with platform, census })
  | .initMutex _ none _ => .ok (.refused .invalidArgument, session)
  | .initMutex me (some mutex) slot => do
      match ← session.platform.startInit session.level me mutex slot with
      | .error fault => pure (.refused fault, session)
      | .ok (world, reply) =>
          pure (.started reply, { session with platform := { session.platform with world } })
  | .copy source target =>
      let boundary := session.boundary.copyHandle source target
      .ok (.silent, { session with platform := { session.platform with boundary } })
  | .switch level => .ok (.silent, { session with level })
  | .elsewhere world =>
      .ok (.silent, { session with platform := { session.platform with world } })

/-- Let events happen one after the other. -/
def run (session : AttributeSession) :
    List AttributeEvent → Except Misuse (List AttributeAnswer × AttributeSession)
  | [] => .ok ([], session)
  | event :: rest => do
      let (answer, next) ← session.step event
      let (answers, last) ← next.run rest
      pure (answer :: answers, last)

/-- A destroyed object is only passed at the hardened level. -/
def Permits (session : AttributeSession) (event : AttributeEvent) : Prop :=
  ∀ address ∈ event.object? session.boundary,
    address ∈ session.census.destroyed → session.level = .hardened

instance (session : AttributeSession) (event : AttributeEvent) :
    Decidable (session.Permits event) :=
  inferInstanceAs (Decidable (∀ address ∈ event.object? session.boundary, _))

/-- Throughout these events destroyed objects are only passed at the hardened level. -/
def Careful (session : AttributeSession) : List AttributeEvent → Prop
  | [] => True
  | event :: rest =>
      session.Permits event ∧
        ∀ answered ∈ (session.step event).toOption, answered.2.Careful rest

instance decidableCareful (session : AttributeSession) :
    (events : List AttributeEvent) → Decidable (session.Careful events)
  | [] => inferInstanceAs (Decidable True)
  | event :: rest =>
      have (answered : AttributeAnswer × AttributeSession) :
          Decidable (answered.2.Careful rest) :=
        decidableCareful answered.2 rest
      inferInstanceAs (Decidable (session.Permits event ∧ ∀ answered ∈ _, _))

end AttributeSession

namespace ObjectCensus

variable {census : ObjectCensus} {before next : Boundary} {call : AttributeCall}

/-- A call that is turned away is not in the census. -/
theorem after_refusal : census.after before next call call.refusal = census := by
  cases call with
  | getSharing slot output =>
      cases output <;> rfl
  | _ =>
      rfl

/-- Neither is one that makes and destroys nothing. -/
theorem after_of_neither
    (acts : call.isInit = false)
    (keeps : call.isDestroy = false)
    (reply : AttributeReply) :
    census.after before next call reply = census := by
  cases call with
  | init | destroy =>
      contradiction
  | _ =>
      exact ite_self _

end ObjectCensus

namespace Boundary

variable {boundary : Boundary} {census : ObjectCensus} {address : Address}

/--
The heap and the registry hold the live objects of the census; every slot holds an
object that was made, and what was made is below the next address.
-/
structure Tallies (boundary : Boundary) (census : ObjectCensus) : Prop where
  registry : ∀ address, address ∈ boundary.registry ↔ census.Live address
  distinct : boundary.registry.Nodup
  heap : ∀ address, boundary.heap.contains address = true ↔ census.Live address
  created :
    ∀ slot address,
      boundary.handle slot = some address →
      address ∈ census.created
  fresh : ∀ address ∈ census.created, address.number < boundary.next
  destroyed : ∀ address ∈ census.destroyed, address ∈ census.created

namespace Tallies

/-- In the beginning there is nothing. -/
theorem empty : ({} : Boundary).Tallies {} where
  registry := by simp [ObjectCensus.Live]
  distinct := List.nodup_nil
  heap := by simp [ObjectCensus.Live, Table.contains, Table.find?, Table.lookup]
  created := nofun
  fresh := by simp
  destroyed := by simp

/-- A handle may be copied anywhere. -/
theorem copyHandle (tallies : boundary.Tallies census) (source target : SlotId) :
    (boundary.copyHandle source target).Tallies census where
  registry := tallies.registry
  distinct := tallies.distinct
  heap := tallies.heap
  created := by
    intro slot address holds
    by_cases same : slot = target
    · rw [same, Boundary.copyHandle, handle_setHandle_self] at holds
      exact tallies.created source address holds
    · rw [Boundary.copyHandle, handle_setHandle_of_ne same] at holds
      exact tallies.created slot address holds
  fresh := tallies.fresh
  destroyed := tallies.destroyed

/-- A live object may be changed. -/
theorem write
    (tallies : boundary.Tallies census)
    (live : census.Live address)
    (attributes : Attributes) :
    (boundary.write address attributes).Tallies census where
  registry := tallies.registry
  distinct := tallies.distinct
  heap := by
    intro other
    by_cases same : other = address
    · simpa [same, Boundary.write, Table.contains] using live
    · rw [← tallies.heap other]
      simp [Boundary.write, Table.contains, Table.find?_set_of_ne _ same]
  created := tallies.created
  fresh := tallies.fresh
  destroyed := tallies.destroyed

/-- A new object is live. -/
theorem place (tallies : boundary.Tallies census) (slot : SlotId) :
    (boundary.place slot).Tallies
      { census with created := ⟨boundary.next⟩ :: census.created } := by
  have unused : (⟨boundary.next⟩ : Address) ∉ census.created := fun made =>
    Nat.lt_irrefl _ (tallies.fresh _ made)
  have live (other : Address) :
      ObjectCensus.Live { census with created := ⟨boundary.next⟩ :: census.created } other ↔
        other = ⟨boundary.next⟩ ∨ census.Live other := by
    simp only [ObjectCensus.Live, List.mem_cons]
    constructor
    · rintro ⟨rfl | made, standing⟩
      · exact .inl rfl
      · exact .inr ⟨made, standing⟩
    · rintro (rfl | ⟨made, standing⟩)
      · exact ⟨.inl rfl, fun gone => unused (tallies.destroyed _ gone)⟩
      · exact ⟨.inr made, standing⟩
  constructor
  case registry =>
    intro other
    rw [live, ← tallies.registry other]
    exact List.mem_cons
  case distinct =>
    refine List.nodup_cons.mpr ⟨fun known => ?_, tallies.distinct⟩
    exact unused ((tallies.registry _).mp known).1
  case heap =>
    intro other
    rw [live]
    by_cases same : other = ⟨boundary.next⟩
    · simp [same, Boundary.place, Table.contains]
    · rw [← tallies.heap other]
      simp [Boundary.place, Table.contains, Table.find?_set_of_ne _ same, same]
  case created =>
    intro other address holds
    by_cases same : other = slot
    · rw [same, handle_place] at holds
      exact List.mem_cons.mpr (.inl (Option.some.inj holds).symm)
    · refine List.mem_cons_of_mem _ (tallies.created other address ?_)
      rw [← holds]
      exact (handle_setHandle_of_ne same _).symm
  case fresh =>
    intro address made
    obtain rfl | made := List.mem_cons.mp made
    · exact Nat.lt_succ_self _
    · exact Nat.lt_succ_of_lt (tallies.fresh address made)
  case destroyed =>
    exact fun address gone => List.mem_cons_of_mem _ (tallies.destroyed address gone)

/-- A live object may be destroyed. -/
theorem free
    (tallies : boundary.Tallies census)
    (live : census.Live address)
    (slot : SlotId) :
    (boundary.free slot address).Tallies
      { census with destroyed := address :: census.destroyed } := by
  have lives (other : Address) :
      ObjectCensus.Live { census with destroyed := address :: census.destroyed } other ↔
        other ≠ address ∧ census.Live other := by
    simp only [ObjectCensus.Live, List.mem_cons, not_or]
    exact and_left_comm
  constructor
  case registry =>
    intro other
    rw [lives, ← tallies.registry other]
    simp [Boundary.free, and_comm]
  case distinct =>
    exact tallies.distinct.filter _
  case heap =>
    intro other
    rw [lives]
    by_cases same : other = address
    · simp [same, Boundary.free, Table.contains]
    · rw [← tallies.heap other]
      simp [Boundary.free, Table.contains, Table.find?_erase_of_ne _ same, same]
  case created =>
    intro other address holds
    by_cases same : other = slot
    · rw [same, handle_free] at holds
      contradiction
    · refine tallies.created other address ?_
      rw [← holds]
      exact (handle_setHandle_of_ne same _).symm
  case fresh =>
    exact tallies.fresh
  case destroyed =>
    intro other gone
    obtain rfl | gone := List.mem_cons.mp gone
    · exact live.1
    · exact tallies.destroyed other gone

variable {call : AttributeCall} {slot : SlotId} {level : SafetyLevel}
  (supported : Bool) (budget : Budget)

/-- An object that is live is found, whatever the level checks. -/
theorem resolve_of_live
    (tallies : boundary.Tallies census)
    (here : boundary.handle slot = some address)
    (live : census.Live address)
    (level : SafetyLevel) :
    boundary.resolve level (some slot) = .ok (slot, address) ∧
      ∃ attributes, boundary.heap.find? address = some attributes :=
  ⟨resolve_of_handle here fun _ => (tallies.registry address).mpr live,
    Option.isSome_iff_exists.mp ((tallies.heap address).mpr live)⟩

/-- A call on a live object does what the methods of its owner do. -/
theorem perform_of_live
    (tallies : boundary.Tallies census)
    (acts : call.isInit = false)
    (leads : call.slot.bind boundary.handle = some address)
    (live : census.Live address)
    (level : SafetyLevel) :
    ∃ attributes after,
      boundary.heap.find? address = some attributes ∧
        let owner : AttributeHandle := { object := some attributes }
        let reply := (owner.perform supported budget call).1
        boundary.perform supported level budget call = .ok (reply, after, budget) ∧
          after.Tallies (census.after boundary after call reply) := by
  obtain ⟨slot, named, here⟩ := Option.bind_eq_some_iff.mp leads
  obtain ⟨resolved, attributes, there⟩ := tallies.resolve_of_live here live level
  rw [← named] at resolved
  have performed := perform_of_resolved supported budget acts resolved there
  obtain ⟨rfl, destroyed⟩ | ⟨keeps, changed, kept⟩ :=
    AttributeHandle.perform_owner supported attributes budget acts named
  · rw [destroyed] at performed
    refine ⟨attributes, boundary.free slot address, there, ?_⟩
    dsimp only
    rw [destroyed]
    refine ⟨performed, ?_⟩
    simpa [ObjectCensus.after, AttributeReply.success, here] using tallies.free live slot
  · refine ⟨attributes, boundary.write address changed, there, ?_⟩
    dsimp only at performed ⊢
    rw [kept] at performed
    rw [ObjectCensus.after_of_neither acts keeps]
    exact ⟨performed, tallies.write live changed⟩

/-- At the hardened level a call on an object that is not live is turned away. -/
theorem perform_of_not_live
    (tallies : boundary.Tallies census)
    (acts : call.isInit = false)
    (leads : call.slot.bind boundary.handle = some address)
    (gone : ¬ census.Live address) :
    boundary.perform supported .hardened budget call = .ok (call.refusal, boundary, budget) := by
  obtain ⟨slot, named, here⟩ := Option.bind_eq_some_iff.mp leads
  refine perform_of_unresolved supported budget acts ?_
  rw [named]
  exact resolve_of_not_mem here fun known => gone ((tallies.registry address).mp known)

/-- A call that passes no object is answered too, and perhaps makes one. -/
theorem perform_of_none
    (tallies : boundary.Tallies census)
    (passes : call.isInit = false → call.slot.bind boundary.handle = none)
    (level : SafetyLevel) :
    ∃ reply after rest,
      boundary.perform supported level budget call = .ok (reply, after, rest) ∧
        after.Tallies (census.after boundary after call reply) := by
  cases acts : call.isInit with
  | false =>
      have unresolved : boundary.resolve level call.slot = .error .invalidArgument :=
        resolve_of_not_handle (passes acts)
      have performed := perform_of_unresolved supported budget acts unresolved
      refine ⟨_, _, _, performed, ?_⟩
      rwa [ObjectCensus.after_refusal]
  | true =>
      obtain ⟨named, rfl⟩ : ∃ named, call = .init named := by
        cases call <;> first | exact ⟨_, rfl⟩ | contradiction
      cases named with
      | none =>
          exact ⟨_, _, _, rfl, tallies⟩
      | some slot =>
          rw [perform_init]
          cases budget.draw.1 with
          | true =>
              exact ⟨_, _, _, rfl, tallies⟩
          | false =>
              refine ⟨_, _, _, rfl, ?_⟩
              simpa [ObjectCensus.after, AttributeReply.success, handle_place] using
                tallies.place slot

/-- What an event passes was made. -/
theorem created_of_object?
    {event : AttributeEvent}
    (tallies : boundary.Tallies census)
    (passes : event.object? boundary = some address) :
    address ∈ census.created := by
  cases event with
  | call me request =>
      obtain ⟨-, leads⟩ := Option.ite_none_left_eq_some.mp passes
      obtain ⟨slot, -, here⟩ := Option.bind_eq_some_iff.mp leads
      exact tallies.created slot address here
  | initMutex me mutex slot =>
      cases mutex with
      | none =>
          contradiction
      | some mutex =>
          obtain ⟨slot, -, here⟩ := Option.bind_eq_some_iff.mp passes
          exact tallies.created slot address here
  | copy | switch | elsewhere =>
      contradiction

end Tallies

end Boundary

namespace AttributeSession

variable {session : AttributeSession}

/-- A call of a thread is a call at the level in force, on the budget of the thread. -/
theorem step_call
    {me : ThreadId}
    {request : AttributeCall}
    {reply : AttributeReply}
    {after : Boundary}
    {rest : Budget}
    (performed :
      session.boundary.perform session.platform.sharing session.level
          (session.platform.world.thread me).budget request =
        .ok (reply, after, rest)) :
    ∃ next,
      session.step (.call me request) = .ok (.replied reply, next) ∧
        next.boundary = after ∧
        next.census = session.census.after session.boundary after request reply := by
  rw [boundary] at performed
  simp only [step, Platform.callAttribute, performed]
  exact ⟨_, rfl, rfl, rfl⟩

/-- The initialization of a mutex looks at the object and leaves it alone. -/
theorem step_initMutex
    {me : ThreadId}
    {mutex : HandleId}
    {slot : Option SlotId}
    {consulted : Except Fault (Option Attributes)}
    (attributes : session.boundary.attributesOf session.level slot = .ok consulted) :
    ∃ answer next,
      session.step (.initMutex me (some mutex) slot) = .ok (answer, next) ∧
        next.boundary = session.boundary ∧
        next.census = session.census ∧
        answer =
          match consulted with
          | .error fault => .refused fault
          | .ok attributes =>
              .started
                ((session.platform.world.setCell mutex {}).apply me
                  (.call mutex (.create attributes) false)).2 := by
  rw [boundary] at attributes
  cases consulted with
  | error fault =>
      simp only [step, Platform.startInit, attributes]
      exact ⟨_, _, rfl, rfl, rfl, rfl⟩
  | ok attributes' =>
      simp only [step, Platform.startInit, attributes]
      exact ⟨_, _, rfl, rfl, rfl, rfl⟩

variable {event : AttributeEvent} {address : Address}

/-- An event whose object is live is answered on this object. -/
theorem step_of_live
    (tallies : session.boundary.Tallies session.census)
    (passes : event.object? session.boundary = some address)
    (live : session.census.Live address) :
    ∃ attributes next,
      session.boundary.heap.find? address = some attributes ∧
        session.step event = .ok (event.answerOn session.platform attributes, next) ∧
        next.boundary.Tallies next.census := by
  cases event with
  | call me request =>
      obtain ⟨acts, leads⟩ := Option.ite_none_left_eq_some.mp passes
      rw [Bool.not_eq_true] at acts
      obtain ⟨attributes, after, there, performed, exact⟩ :=
        tallies.perform_of_live session.platform.sharing
          (session.platform.world.thread me).budget acts leads live
          session.level
      obtain ⟨next, stepped, rfl, census⟩ := step_call performed
      exact ⟨attributes, next, there, stepped, by rwa [census]⟩
  | initMutex me mutex slot =>
      cases mutex with
      | none =>
          contradiction
      | some mutex =>
          obtain ⟨slot, rfl, here⟩ := Option.bind_eq_some_iff.mp passes
          obtain ⟨resolved, attributes, there⟩ :=
            tallies.resolve_of_live here live session.level
          obtain ⟨_, next, stepped, same, census, rfl⟩ :=
            step_initMutex (Boundary.attributesOf_of_resolved here resolved there)
          exact ⟨attributes, next, there, stepped, by rwa [same, census]⟩
  | copy | switch | elsewhere =>
      contradiction

/-- At the hardened level an event whose object is not live is refused. -/
theorem step_of_not_live
    (tallies : session.boundary.Tallies session.census)
    (passes : event.object? session.boundary = some address)
    (gone : ¬ session.census.Live address)
    (hardened : session.level = .hardened) :
    ∃ next,
      session.step event = .ok (event.refusal, next) ∧
        next.boundary = session.boundary ∧
        next.census = session.census := by
  cases event with
  | call me request =>
      obtain ⟨acts, leads⟩ := Option.ite_none_left_eq_some.mp passes
      rw [Bool.not_eq_true] at acts
      have performed :=
        tallies.perform_of_not_live session.platform.sharing
          (session.platform.world.thread me).budget acts leads gone
      rw [← hardened] at performed
      obtain ⟨next, stepped, same, census⟩ := step_call performed
      exact ⟨next, stepped, same, by rw [census, ObjectCensus.after_refusal]⟩
  | initMutex me mutex slot =>
      cases mutex with
      | none =>
          contradiction
      | some mutex =>
          obtain ⟨slot, rfl, here⟩ := Option.bind_eq_some_iff.mp passes
          have unresolved :
              session.boundary.resolve session.level (some slot) = .error .invalidArgument := by
            rw [hardened]
            exact Boundary.resolve_of_not_mem here fun known =>
              gone ((tallies.registry address).mp known)
          obtain ⟨_, next, stepped, same, census, rfl⟩ :=
            step_initMutex (Boundary.attributesOf_of_unresolved here unresolved)
          exact ⟨next, stepped, same, census⟩
  | copy | switch | elsewhere =>
      contradiction

/-- An event that passes no object is answered, too. -/
theorem step_of_none
    (tallies : session.boundary.Tallies session.census)
    (passes : event.object? session.boundary = none) :
    ∃ answer next,
      session.step event = .ok (answer, next) ∧ next.boundary.Tallies next.census := by
  cases event with
  | call me request =>
      have nowhere :
          request.isInit = false → request.slot.bind session.boundary.handle = none := by
        intro acts
        simpa [AttributeEvent.object?, acts] using passes
      obtain ⟨reply, after, rest, performed, exact⟩ :=
        tallies.perform_of_none session.platform.sharing
          (session.platform.world.thread me).budget nowhere session.level
      obtain ⟨next, stepped, rfl, census⟩ := step_call performed
      exact ⟨_, next, stepped, by rwa [census]⟩
  | initMutex me mutex slot =>
      cases mutex with
      | none =>
          exact ⟨_, _, rfl, tallies⟩
      | some mutex =>
          have attributes :
              session.boundary.attributesOf session.level slot = .ok (.ok none) :=
            Boundary.attributesOf_of_not_handle passes
          obtain ⟨answer, next, stepped, same, census, -⟩ := step_initMutex attributes
          exact ⟨answer, next, stepped, by rwa [same, census]⟩
  | copy source target =>
      exact ⟨_, _, rfl, tallies.copyHandle source target⟩
  | switch | elsewhere =>
      exact ⟨_, _, rfl, tallies⟩

/-- Every event that may happen is answered, and the census stays exact. -/
theorem step_ok
    (tallies : session.boundary.Tallies session.census)
    (permitted : session.Permits event) :
    ∃ answer next,
      session.step event = .ok (answer, next) ∧ next.boundary.Tallies next.census := by
  cases passes : event.object? session.boundary with
  | none =>
      exact step_of_none tallies passes
  | some address =>
      by_cases live : session.census.Live address
      · obtain ⟨_, next, -, stepped, exact⟩ := step_of_live tallies passes live
        exact ⟨_, next, stepped, exact⟩
      · have destroyed : address ∈ session.census.destroyed :=
          Decidable.byContradiction fun standing =>
            live ⟨tallies.created_of_object? passes, standing⟩
        obtain ⟨next, stepped, same, census⟩ :=
          step_of_not_live tallies passes live (permitted address passes destroyed)
        exact ⟨_, next, stepped, by rwa [same, census]⟩

/-- What a careful session does goes on without a misuse, and the census stays exact. -/
theorem run_ok
    {events : List AttributeEvent}
    (tallies : session.boundary.Tallies session.census)
    (careful : session.Careful events) :
    ∃ answers last,
      session.run events = .ok (answers, last) ∧ last.boundary.Tallies last.census := by
  induction events generalizing session with
  | nil =>
      exact ⟨[], session, rfl, tallies⟩
  | cons event rest inductionHypothesis =>
      obtain ⟨permitted, later⟩ := careful
      obtain ⟨answer, next, stepped, exact⟩ := step_ok tallies permitted
      have careful := later (answer, next) (by rw [stepped]; rfl)
      obtain ⟨answers, last, ran, tallied⟩ := inductionHypothesis exact careful
      have continued :
          session.run (event :: rest) =
            (next.run rest).map fun later => (answer :: later.1, later.2) := by
        rw [run, stepped]
        rfl
      rw [ran] at continued
      exact ⟨answer :: answers, last, continued, tallied⟩

/-- An event that is refused for its handle has an invalid argument. -/
theorem isInvalid_refusal (event : AttributeEvent) : event.refusal.isInvalid = true := by
  cases event with
  | call me request =>
      cases request with
      | getSharing slot output =>
          cases output <;> rfl
      | _ =>
          rfl
  | _ =>
      rfl

/-- An event on an object is only wrong in itself. -/
theorem isInvalid_answerOn
    (passes : event.object? session.boundary = some address)
    (platform : Platform)
    (attributes : Attributes) :
    (event.answerOn platform attributes).isInvalid = event.isFlawed := by
  cases event with
  | call me request =>
      obtain ⟨acts, leads⟩ := Option.ite_none_left_eq_some.mp passes
      rw [Bool.not_eq_true] at acts
      obtain ⟨slot, named, -⟩ := Option.bind_eq_some_iff.mp leads
      have valid :=
        AttributeHandle.status_perform_owner platform.sharing attributes
          (platform.world.thread me).budget acts named
      rw [Bool.eq_iff_iff]
      exact decide_eq_true_iff.trans valid
  | initMutex me mutex slot =>
      cases mutex <;> rfl
  | _ =>
      rfl

/--
In a careful session, however long, no call uses an object that is not there, and
heap and registry hold exactly the objects that were made and not destroyed.  From
then on, at the hardened level, an event is refused for an object that is not live
and changes neither objects nor registry nor slots; an event for a live object is
answered on its attributes at any level, and only finds fault with itself.
-/
theorem objects_exact
    (sharing : Bool)
    (level : SafetyLevel)
    (world : World)
    (events : List AttributeEvent)
    (careful : (opening sharing level world).Careful events) :
    ∃ answers session,
      (opening sharing level world).run events = .ok (answers, session) ∧
        session.boundary.registry.Nodup ∧
        (∀ address, address ∈ session.boundary.registry ↔ session.census.Live address) ∧
        (∀ address,
          session.boundary.heap.contains address = true ↔ session.census.Live address) ∧
        ∀ event address,
          event.object? session.boundary = some address →
          (session.level = .hardened →
              ¬ session.census.Live address →
              ∃ next,
                session.step event = .ok (event.refusal, next) ∧
                  event.refusal.isInvalid = true ∧
                  next.boundary = session.boundary) ∧
            (session.census.Live address →
              ∃ attributes next,
                session.boundary.heap.find? address = some attributes ∧
                  session.step event =
                    .ok (event.answerOn session.platform attributes, next) ∧
                  (event.answerOn session.platform attributes).isInvalid = event.isFlawed) := by
  have start : (opening sharing level world).boundary.Tallies {} := .empty
  obtain ⟨answers, session, ran, tallies⟩ := run_ok start careful
  refine ⟨answers, session, ran, tallies.distinct, tallies.registry, tallies.heap, ?_⟩
  intro event address passes
  constructor
  · intro hardened gone
    obtain ⟨next, stepped, same, -⟩ := step_of_not_live tallies passes gone hardened
    exact ⟨next, stepped, isInvalid_refusal event, same⟩
  · intro live
    obtain ⟨attributes, next, there, stepped, -⟩ := step_of_live tallies passes live
    exact ⟨attributes, next, there, stepped, isInvalid_answerOn passes _ _⟩

/--
A handle is copied and its object destroyed; at the hardened level the copy is
refused, and the next object of the first slot is used at the strict level.
-/
def staleCopy : List AttributeEvent :=
  [.call ⟨0⟩ (.init (some ⟨0⟩)), .copy ⟨0⟩ ⟨1⟩, .call ⟨0⟩ (.destroy (some ⟨0⟩)),
    .switch .hardened, .call ⟨1⟩ (.getKind (some ⟨1⟩) true),
    .call ⟨1⟩ (.destroy (some ⟨1⟩)), .initMutex ⟨1⟩ (some ⟨0⟩) (some ⟨1⟩),
    .call ⟨1⟩ (.init (some ⟨0⟩)), .switch .strict, .call ⟨0⟩ (.setKind (some ⟨0⟩) 1),
    .initMutex ⟨0⟩ (some ⟨0⟩) (some ⟨0⟩)]

/-- The hypothesis of `objects_exact` holds of this session, which makes and destroys objects. -/
theorem objects_exact_staleCopy :
    ∃ answers session,
      (opening false .strict {}).run staleCopy = .ok (answers, session) ∧
        answers[4]? = some (.replied (.refused .invalidArgument)) ∧
        ¬ session.census.Live ⟨0⟩ ∧
        ∀ address, address ∈ session.boundary.registry ↔ session.census.Live address := by
  obtain ⟨answers, session, ran, -, registry, -⟩ :=
    objects_exact false .strict {} staleCopy (by decide)
  have computed :
      ((opening false .strict {}).run staleCopy).toOption.map
          (fun ran => (ran.1[4]?, decide (ran.2.census.Live ⟨0⟩))) =
        some (some (.replied (.refused .invalidArgument)), false) := by
    decide
  rw [ran] at computed
  obtain ⟨refused, gone⟩ := Prod.mk.inj (Option.some.inj computed)
  exact ⟨answers, session, ran, refused, of_decide_eq_false gone, registry⟩

end AttributeSession

end LatchMutex
