import PackageIndex.Proofs.Attempts
import PackageIndex.Proofs.Json.RoundTrip
import PackageIndex.Route.Document

/-!
# The document of a route table

A table that was read and is written again reads back as it was, the keys that nobody looks at
included, unless such a key holds a double: a double need not read back as it was written.
-/
namespace PackageIndex

open Json

/-! ## Parts of a route -/

namespace Segment

/-- A segment is decoded from what it is encoded as. -/
theorem decode?_encode (segment : Segment) : decode? segment.encode = some segment := by
  cases segment <;> rfl

theorem numbers_encode (segment : Segment) : segment.encode.numbers = [] := by
  cases segment <;> rfl

theorem depth_encode_le (segment : Segment) : segment.encode.depth ≤ 1 := by
  cases segment <;> simp [encode, Value.depth, Value.memberDepth]

end Segment

/-- A choice is decoded from the value it is written as. -/
theorem decodeChoice_ofValue {α : Type} {choice : String} {decode? : Value → Option α} {room : Nat}
    {value : Value} {a : α} (deep : value.depth ≤ room) (h : decode? value = some a) :
    decodeChoice choice decode? room (Draft.ofValue value) = .ok a := by
  rw [decodeChoice, value_ofValue value deep]
  conv_lhs => whnf
  rw [h]
  rfl

/-- A member that may be missing is taken in, if taking it in puts what it says. -/
theorem fold_member? {α β : Type} {step : α → String → Draft → Decoded α} {name : String}
    {encode : β → Value} (put : Option (Option β) → α)
    (taken : ∀ b, step (put none) name (Draft.ofValue (encode b)) = .ok (put (some (some b))))
    (given : Option β) :
    Members.fold step (put none) (Members.ofValues (member? name (given.map encode))) =
      .ok (put (given.map some)) := by
  cases given with
  | none => rfl
  | some b => exact fold_ofValues_cons (taken b) []

/-- Items that are decoded one by one from what they are encoded as come back. -/
theorem mapM_map {α : Type} {encode : α → Value} {decode? : Value → Option α}
    (h : ∀ a, decode? (encode a) = some a) (items : List α) :
    (items.map encode).mapM decode? = some items := by
  rw [mapM_eq_some_iff, List.forall₂_map_left_iff, List.forall₂_same]
  exact fun a _ => h a

namespace RoutePath

/-- A path is decoded from what it is encoded as. -/
theorem decode?_encode (path : RoutePath) : decode? path.encode = some path := by
  cases path with
  | literal text => rfl
  | pattern segments =>
    rw [encode, decode?, mapM_map Segment.decode?_encode]
    rfl

theorem numbers_encode (path : RoutePath) : path.encode.numbers = [] := by
  cases path with
  | literal text => rfl
  | pattern segments =>
    rw [List.eq_nil_iff_forall_not_mem]
    intro n mem
    simp [encode, Value.numbers, Value.mem_itemNumbers, Segment.numbers_encode] at mem

theorem depth_encode_le (path : RoutePath) : path.encode.depth ≤ 2 := by
  cases path with
  | literal text => exact Nat.zero_le _
  | pattern segments =>
    refine Nat.succ_le_succ (Value.itemDepth_le.mpr fun item mem => ?_)
    obtain ⟨segment, -, rfl⟩ := List.mem_map.mp mem
    exact segment.depth_encode_le

end RoutePath

namespace Methods

theorem decode?_encode (methods : Methods) : decode? methods.encode = some methods := by
  cases methods with
  | one method => rfl
  | many methods =>
    have each : ∀ method : String, Segment.text? (Value.string method) = some method :=
      fun _ => rfl
    rw [encode, decode?, mapM_map each]
    rfl

theorem numbers_encode (methods : Methods) : methods.encode.numbers = [] := by
  cases methods with
  | one method => rfl
  | many methods =>
    rw [List.eq_nil_iff_forall_not_mem]
    intro n mem
    simp [encode, Value.numbers, Value.mem_itemNumbers] at mem

theorem depth_encode_le (methods : Methods) : methods.encode.depth ≤ 1 := by
  cases methods with
  | one method => exact Nat.zero_le _
  | many methods =>
    refine Nat.succ_le_succ (Value.itemDepth_le.mpr fun item mem => ?_)
    obtain ⟨method, -, rfl⟩ := List.mem_map.mp mem
    exact Nat.le_refl _

end Methods

namespace Permission

theorem decode?_encode (permission : Permission) :
    decode? permission.encode = some permission := by
  cases permission <;> rfl

theorem numbers_encode (permission : Permission) : permission.encode.numbers = [] := by
  cases permission <;> rfl

theorem depth_encode (permission : Permission) : permission.encode.depth = 0 := by
  cases permission <;> rfl

end Permission

namespace Permissions

theorem decodeOne_encode (room : Nat) (permission : Permission) :
    decodeOne room (Draft.ofValue permission.encode) = .ok (some permission) := by
  have chosen : decodeChoice "Permission" Permission.decode? room
      (Draft.ofValue permission.encode) = .ok permission :=
    decodeChoice_ofValue (by rw [Permission.depth_encode]; exact Nat.zero_le _)
      permission.decode?_encode
  refine toOption_ofValue ?_ chosen
  cases permission <;> exact Value.noConfusion

theorem decode_encode (room : Nat) (permissions : Permissions) :
    decode room (Draft.ofValue permissions.encode) = .ok permissions := by
  obtain ⟨api, ajax⟩ := permissions
  have first : Members.fold (Fields.take room) ⟨.none, .none⟩
      (Members.ofValues (member? "api" (api.map Permission.encode))) =
        .ok ⟨api.map some, .none⟩ := by
    refine fold_member? (Fields.mk · .none) (fun permission => ?_) api
    rw [Fields.take, once, decodeOne_encode]
    rfl
  have second : Members.fold (Fields.take room) ⟨api.map some, .none⟩
      (Members.ofValues (member? "ajax" (ajax.map Permission.encode))) =
        .ok ⟨api.map some, ajax.map some⟩ := by
    refine fold_member? (Fields.mk (api.map some)) (fun permission => ?_) ajax
    rw [Fields.take, once, decodeOne_encode]
    rfl
  rw [encode, Draft.ofValue, decode, fold_ofValues_append first, second]
  cases api <;> cases ajax <;> rfl

theorem numbers_encode (permissions : Permissions) : permissions.encode.numbers = [] := by
  obtain ⟨api, ajax⟩ := permissions
  cases api <;> cases ajax <;>
    simp [encode, member?, Value.numbers, Value.memberNumbers, Permission.numbers_encode]

end Permissions

/-! ## Routes -/

namespace Route

def managed : List String := ["path", "controller", "method", "absolute", "permissions"]

/-- A member that a route carries along: not one of its own, sorted, and not too deep. -/
structure Carried (member : String × Value) : Prop where
  free : member.1 ∉ managed
  sorted : member.2.sorted = member.2
  deep : member.2.depth ≤ room

/-- A route as it comes out of a document. -/
structure WellFormed (route : Route) : Prop where
  byName : Value.ByName route.extra
  carried : ∀ member ∈ route.extra, Carried member

/-- A member that is none of the fields of a route goes to the others. -/
theorem take_of_free {name : String} (free : name ∉ managed) (fields : Fields) (draft : Draft) :
    fields.take name draft = (do
      let value ← ofText (draft.value room)
      pure { fields with others := (name, value.sorted) :: fields.others }) := by
  simp only [managed, List.mem_cons, List.not_mem_nil, or_false, not_or] at free
  unfold Fields.take
  split <;> simp_all

/-- Carried members are all taken in as they are. -/
theorem fold_carried {members : List (String × Value)}
    (carried : ∀ member ∈ members, Carried member) (fields : Fields) :
    Members.fold Fields.take fields (Members.ofValues members) =
      .ok { fields with others := members.reverse ++ fields.others } := by
  induction members generalizing fields with
  | nil => rfl
  | cons member members ih =>
    obtain ⟨free, sorted, deep⟩ := carried member (List.mem_cons_self ..)
    have taken : fields.take member.1 (Draft.ofValue member.2) =
        .ok { fields with others := member :: fields.others } := by
      rw [take_of_free free, value_ofValue member.2 deep]
      change Except.ok { fields with others := (member.1, member.2.sorted) :: fields.others } = _
      rw [sorted]
    rw [fold_ofValues_cons taken, ih fun other mem => carried other (List.mem_cons_of_mem _ mem)]
    simp

/-- A route that is well-formed is decoded from what it is encoded as. -/
theorem decode_encode {route : Route} (formed : route.WellFormed) :
    decode (Draft.ofValue route.encode) = .ok route := by
  obtain ⟨path, controller, method, absolute, permissions, extra⟩ := route
  have first : Members.fold Fields.take ⟨none, none, none, none, none, []⟩
      (Members.ofValues [("path", path.encode), ("controller", .string controller)]) =
        .ok ⟨some path, some controller, none, none, none, []⟩ := by
    have chosen : decodeChoice "RoutePath" RoutePath.decode? room (Draft.ofValue path.encode) =
        .ok path :=
      decodeChoice_ofValue (Nat.le_trans path.depth_encode_le (by decide)) path.decode?_encode
    have taken : Fields.take ⟨none, none, none, none, none, []⟩ "path"
        (Draft.ofValue path.encode) = .ok ⟨some path, none, none, none, none, []⟩ := by
      rw [Fields.take, once, chosen]
      rfl
    rw [fold_ofValues_cons taken]
    rfl
  have second : Members.fold Fields.take ⟨some path, some controller, none, none, none, []⟩
      (Members.ofValues (member? "method" (method.map Methods.encode))) =
        .ok ⟨some path, some controller, method.map some, none, none, []⟩ := by
    refine fold_member? (Fields.mk (some path) (some controller) · none none [])
      (fun methods => ?_) method
    have chosen : decodeChoice "HttpMethods" Methods.decode? room
        (Draft.ofValue methods.encode) = .ok methods :=
      decodeChoice_ofValue (Nat.le_trans methods.depth_encode_le (by decide))
        methods.decode?_encode
    have given : methods.encode ≠ .null := by cases methods <;> exact Value.noConfusion
    rw [Fields.take, once, toOption_ofValue given chosen]
    rfl
  have third : Members.fold Fields.take
      ⟨some path, some controller, method.map some, none, none, []⟩
      (Members.ofValues (member? "absolute" (absolute.map .bool))) =
        .ok ⟨some path, some controller, method.map some, absolute.map some, none, []⟩ :=
    fold_member? (Fields.mk (some path) (some controller) (method.map some) · none [])
      (fun _ => rfl) absolute
  have fourth : Members.fold Fields.take
      ⟨some path, some controller, method.map some, absolute.map some, none, []⟩
      (Members.ofValues (member? "permissions" (permissions.map Permissions.encode))) =
        .ok ⟨some path, some controller, method.map some, absolute.map some,
          permissions.map some, []⟩ := by
    refine fold_member?
      (Fields.mk (some path) (some controller) (method.map some) (absolute.map some) · [])
      (fun permissions => ?_) permissions
    have given : permissions.encode ≠ .null := Value.noConfusion
    rw [Fields.take, once, toOption_ofValue given (Permissions.decode_encode _ permissions)]
    rfl
  have sorted : Value.sortMembers extra = extra := Value.sortMembers_of_byName formed.byName
  rw [encode, Draft.ofValue, decode, List.append_assoc, List.append_assoc, List.append_assoc,
    fold_ofValues_append first, fold_ofValues_append second, fold_ofValues_append third,
    fold_ofValues_append fourth, fold_carried formed.carried]
  simp only [ok_bind, required, List.append_nil, List.reverse_reverse, sorted]
  cases method <;> cases absolute <;> cases permissions <;> rfl

/-- The numbers of a written route are those it carries along. -/
theorem mem_numbers_encode {route : Route} {n : Number} (h : n ∈ route.encode.numbers) :
    ∃ member ∈ route.extra, n ∈ member.2.numbers := by
  rw [encode, Value.numbers, Value.mem_memberNumbers] at h
  obtain ⟨member, mem, h⟩ := h
  have optional {name : String} {value : Option Value} (mem : member ∈ member? name value)
      (none : ∀ v ∈ value, v.numbers = []) : n ∈ ([] : List Number) := by
    cases value with
    | none => cases mem
    | some v =>
      rw [List.mem_singleton.mp mem, none v rfl] at h
      exact h
  rcases List.mem_append.mp mem with mem | mem
  · rcases List.mem_append.mp mem with mem | mem
    · rcases List.mem_append.mp mem with mem | mem
      · rcases List.mem_append.mp mem with mem | mem
        · rcases List.mem_cons.mp mem with rfl | mem
          · rw [RoutePath.numbers_encode] at h
            cases h
          · rw [List.mem_singleton.mp mem] at h
            cases h
        · refine absurd (optional mem fun v hv => ?_) List.not_mem_nil
          obtain ⟨methods, -, rfl⟩ := Option.map_eq_some_iff.mp hv
          exact methods.numbers_encode
      · refine absurd (optional mem fun v hv => ?_) List.not_mem_nil
        obtain ⟨absolute, -, rfl⟩ := Option.map_eq_some_iff.mp hv
        rfl
    · refine absurd (optional mem fun v hv => ?_) List.not_mem_nil
      obtain ⟨permissions, -, rfl⟩ := Option.map_eq_some_iff.mp hv
      exact permissions.numbers_encode
  · exact ⟨member, mem, h⟩

/-! ### Routes that were read -/

def Fields.Carry (fields : Fields) : Prop :=
  ∀ member ∈ fields.others, Carried member ∧ ∀ n ∈ member.2.numbers, n.InRange

/-- Taking a member in keeps what holds of the members that are carried. -/
theorem carry_take {fields next : Fields} {name : String} {draft : Draft}
    (words : ∀ n ∈ draft.numbers, n.InRange) (carry : fields.Carry)
    (taken : fields.take name draft = .ok next) : next.Carry := by
  by_cases own : name ∈ managed
  · have same : next.others = fields.others := by
      unfold Fields.take at taken
      split at taken
      case h_6 => simp_all [managed]
      all_goals
        obtain ⟨_, -, h⟩ := bind_eq_ok.mp taken
        cases h
        rfl
    rw [Fields.Carry, same]
    exact carry
  · rw [take_of_free own] at taken
    obtain ⟨value, given, h⟩ := bind_eq_ok.mp taken
    cases h
    have valued : draft.value room = .ok value := by
      cases kept : draft.value room with
      | error fault => rw [kept] at given; cases given
      | ok v => rw [kept] at given; cases given; rfl
    obtain ⟨deep, numbers⟩ := of_value_eq_ok draft valued
    intro member mem
    rcases List.mem_cons.mp mem with rfl | mem
    · refine ⟨⟨own, value.sorted_sorted, Nat.le_trans value.depth_sorted_le deep⟩, fun n mem => ?_⟩
      exact words n (numbers ▸ Value.mem_numbers_of_sorted value mem)
    · exact carry member mem

/-- A decoded route is well formed, and its integers fit a word. -/
theorem of_decode_eq_ok {draft : Draft} {route : Route}
    (words : ∀ n ∈ draft.numbers, n.InRange) (h : decode draft = .ok route) :
    route.WellFormed ∧ ∀ member ∈ route.extra, ∀ n ∈ member.2.numbers, n.InRange := by
  unfold decode at h
  split at h
  · next members =>
    obtain ⟨fields, folded, h⟩ := bind_eq_ok.mp h
    obtain ⟨path, -, h⟩ := bind_eq_ok.mp h
    obtain ⟨controller, -, h⟩ := bind_eq_ok.mp h
    cases h
    have carry : fields.Carry := by
      refine fold_keeps (fun _ _ _ _ words carry taken => carry_take words carry taken) members
        words ?_ folded
      intro member mem
      cases mem
    have carried : ∀ member ∈ Value.sortMembers fields.others.reverse,
        Carried member ∧ ∀ n ∈ member.2.numbers, n.InRange := fun member mem =>
      carry member (List.mem_reverse.mp (Value.mem_sortMembers mem))
    exact ⟨⟨Value.byName_sortMembers _, fun member mem => (carried member mem).1⟩,
      fun member mem => (carried member mem).2⟩
  · exact absurd h (mismatch_ne_ok _ _ _)

/-- A route carries along no double. -/
def Exact (route : Route) : Prop :=
  ∀ member ∈ route.extra, ∀ n ∈ member.2.numbers, n.isDouble = false

instance (route : Route) : Decidable route.Exact :=
  inferInstanceAs (Decidable (∀ member ∈ route.extra, ∀ n ∈ member.2.numbers, n.isDouble = false))

end Route

/-! ## Tables -/

namespace RouteTable

/-- Every route reads back as it is written. -/
structure Kept (table : RouteTable) : Prop where
  formed : ∀ route ∈ table.routes, route.WellFormed
  numbers : ∀ route ∈ table.routes, ∀ member ∈ route.extra, ∀ n ∈ member.2.numbers, n.Kept

/-- The numbers of a table that is kept are kept. -/
theorem Kept.numbers_encode {table : RouteTable} (kept : table.Kept) :
    ∀ n ∈ table.encode.numbers, n.Kept := by
  intro n mem
  obtain ⟨value, mem, h⟩ := Value.mem_itemNumbers.mp mem
  obtain ⟨route, listed, rfl⟩ := List.mem_map.mp mem
  obtain ⟨member, carried, h⟩ := Route.mem_numbers_encode h
  exact kept.numbers route listed member carried n h

/-- Reading the document of a table gives the table. -/
theorem ofJson_toJson {table : RouteTable} (kept : table.Kept) :
    ofJson table.toJson = .ok table := by
  have decoded : decodeText (Draft.toList Route.decode) table.toJson = .ok table.routes :=
    decodeText_document kept.numbers_encode
      (toList_ofValue fun route listed => Route.decode_encode (kept.formed route listed))
  rw [ofJson, decoded]

/-- A table that was read reads back, unless it carries a double along. -/
theorem kept_of_ofJson {text : String} {table : RouteTable} (h : ofJson text = .ok table)
    (exact : ∀ route ∈ table.routes, route.Exact) : table.Kept := by
  unfold ofJson at h
  split at h
  · cases h
  · next routes decoded =>
    cases h
    obtain ⟨draft, listed, words⟩ := of_decodeText_eq_ok decoded
    obtain ⟨items, rfl, listed⟩ := toList_eq_ok.mp listed
    have each : ∀ route ∈ routes, route.WellFormed ∧
        ∀ member ∈ route.extra, ∀ n ∈ member.2.numbers, n.InRange := by
      intro route mem
      obtain ⟨draft, decoded, words⟩ := of_decode_eq_ok items listed words route mem
      exact Route.of_decode_eq_ok words decoded
    exact ⟨fun route mem => (each route mem).1, fun route mem member carried n h =>
      Number.kept_of_inRange ((each route mem).2 member carried n h)
        (exact route mem member carried n h)⟩

/-- A route that carries nothing along may be put at the end. -/
theorem Kept.append {table : RouteTable} (kept : table.Kept) {route : Route}
    (bare : route.extra = []) : (table.append route).Kept := by
  constructor
  · intro other mem
    rcases List.mem_append.mp mem with mem | mem
    · exact kept.formed other mem
    · rw [List.mem_singleton.mp mem]
      exact ⟨by rw [bare]; exact .nil, fun member mem => by rw [bare] at mem; cases mem⟩
  · intro other mem member carried
    rcases List.mem_append.mp mem with mem | mem
    · exact kept.numbers other mem member carried
    · rw [List.mem_singleton.mp mem, bare] at carried
      cases carried

/-- The tables that come about: the empty one, what a document holds, and one more route at the end,
whatever its fields are; a new route carries nothing along. -/
inductive Built : RouteTable → Prop where
  | empty : Built .empty
  | read {text : String} {table : RouteTable} : ofJson text = .ok table → Built table
  | append {table : RouteTable} {route : Route} :
    Built table → route.extra = [] → Built (table.append route)

/-- A table that is built of parts without doubles is kept. -/
theorem Built.kept {table : RouteTable} (built : table.Built)
    (exact : ∀ route ∈ table.routes, route.Exact) : table.Kept := by
  induction built with
  | empty =>
    constructor
    · intro route mem
      cases mem
    · intro route mem
      cases mem
  | read decoded => exact kept_of_ofJson decoded exact
  | append built bare ih =>
    exact (ih fun route mem => exact route (List.mem_append_left _ mem)).append bare

/-- A table that has come about reads back from its document, unless it carries a double along; so a
document that was written stays as it is when it is read and written again. -/
theorem ofJson_document_of_built {table : RouteTable} (built : table.Built)
    (exact : ∀ route ∈ table.routes, route.Exact) :
    ofJson table.toJson = .ok table ∧ (ofJson table.toJson).map toJson = .ok table.toJson := by
  have back : ofJson table.toJson = .ok table := ofJson_toJson (built.kept exact)
  refine ⟨back, ?_⟩
  rw [back]
  rfl

/-- A route with empty permissions and a note is read; one with every kind of segment comes
after. -/
theorem ofJson_document_of_built_two_routes :
    let text :=
      "[\x7b\"note\":[-1],\"permissions\":\x7b\x7d,\"path\":\"a\",\"controller\":\"\"\x7d]"
    let first : Route :=
      ⟨.literal "a", "", none, none, some .none, [("note", .array [.number (.integer (-1))])]⟩
    let second : Route :=
      ⟨.pattern [.literal "a", .parameter "b", .typed "c" "\n", .wildcard "d"], "A@b",
        some (.many ["get"]), some true, none, []⟩
    let table : RouteTable := ⟨[first, second]⟩
    ofJson text = .ok ⟨[first]⟩ ∧ first.Exact ∧ second.Exact ∧
      ofJson table.toJson = .ok table ∧
        (ofJson table.toJson).map toJson = .ok table.toJson := by
  intro text first second table
  have read : ofJson text = .ok ⟨[first]⟩ := by decide +kernel
  have exact : ∀ route ∈ [first, second], route.Exact := by decide
  have built : table.Built := .append (.read read) rfl
  exact ⟨read, exact first (by simp), exact second (by simp),
    ofJson_document_of_built built exact⟩

end RouteTable

end PackageIndex
