import AgentOperator.Api.Request
import AgentOperator.Proofs.Naming.Label

/-!
# Addresses that can be sent

Which requests of a pass can be sent. `legalPath` checks the characters of an address one by one,
where `Address.ofText` splits it into parts first; the two agree (`of_text_iff`). Legality of an
address depends on the namespace in it, and all requests of a pass have the same namespace, so that
after the first request only the length of an address can be at fault (`too_long_of_mentions`).
-/

namespace AgentOperator.Api

namespace Address

/-- Whether all characters up to a hash may occur in a query. -/
def legalQuery : List Char → Bool
  | [] => true
  | c :: cs => c == '#' || (inQuery c && legalQuery cs)

/-- Whether all characters up to a hash may occur where they are, from within a path on. -/
def legalPath : List Char → Bool
  | [] => true
  | c :: cs => c == '#' || (if c = '?' then legalQuery cs else inPath c && legalPath cs)

/-- A query is legal if all characters before the first hash may occur in a query. -/
theorem legal_query_eq (cs : List Char) :
    legalQuery cs = (cs.takeWhile (· != '#')).all inQuery := by
  induction cs with
  | nil => rfl
  | cons c cs ih =>
      unfold legalQuery
      by_cases hhash : c = '#'
      · simp [hhash]
      · simp [hhash, ih]

/-- An address is legal if its part before the first hash is: the path, and the query behind the
first question mark. -/
theorem legal_path_eq (cs : List Char) :
    legalPath cs =
      (((cs.takeWhile (· != '#')).takeWhile (· != '?')).all inPath &&
        (((cs.takeWhile (· != '#')).dropWhile (· != '?')).drop 1).all inQuery) := by
  induction cs with
  | nil => rfl
  | cons c cs ih =>
      unfold legalPath
      by_cases hhash : c = '#'
      · simp [hhash]
      · by_cases hmark : c = '?'
        · simp [hmark, legal_query_eq]
        · simp [hhash, hmark, ih, Bool.and_assoc]

/-- A text is an address if and only if it is not too long and legal. -/
theorem of_text_iff (text : String) :
    (∃ address, ofText text = .ok address) ↔
      text.utf8ByteSize ≤ maxSize ∧ legalPath text.toList = true := by
  rw [legal_path_eq]
  unfold ofText
  split
  · next hlong =>
      constructor
      · intro hok
        rcases hok with ⟨address, h⟩
        cases h
      · intro hfits
        omega
  · next hshort =>
      simp only [] at *
      split
      · next hlegal => exact ⟨fun _ => ⟨Nat.le_of_not_lt hshort, hlegal⟩, fun _ => ⟨_, rfl⟩⟩
      · next hillegal =>
          constructor
          · intro hok
            rcases hok with ⟨address, h⟩
            cases h
          · intro hfits
            exact absurd hfits.2 hillegal

/-- A legal text that is no address is too long. -/
theorem too_long_of_legal {text : String} {fault : RequestFault}
    (hlegal : legalPath text.toList = true) (hfault : ofText text = .error fault) :
    fault = .tooLong := by
  by_cases hshort : text.utf8ByteSize ≤ maxSize
  · obtain ⟨address, hok⟩ := (of_text_iff text).2 ⟨hshort, hlegal⟩
    rw [hok] at hfault
    cases hfault
  · unfold ofText at hfault
    rw [if_pos (Nat.lt_of_not_le hshort)] at hfault
    exact (Except.error.inj hfault).symm

/-- A character that may occur anywhere in an address. -/
def isSafe (c : Char) : Bool := inPath c && inQuery c

/-- A character that may occur in a path and ends neither the path nor the address. -/
def isPlain (c : Char) : Bool := inPath c && c != '?' && c != '#'

/-- A legal query stays legal if safe characters follow. -/
theorem legal_query_append {cs tail : List Char} (hcs : legalQuery cs = true)
    (htail : tail.all isSafe = true) : legalQuery (cs ++ tail) = true := by
  induction cs with
  | nil =>
      rw [List.nil_append, legal_query_eq, List.all_eq_true]
      intro c hc
      have hsafe := List.all_eq_true.1 htail c ((List.takeWhile_sublist _).mem hc)
      exact (Bool.and_eq_true_iff.1 hsafe).2
  | cons c cs ih =>
      simp only [legalQuery, List.cons_append, Bool.or_eq_true, Bool.and_eq_true] at hcs ⊢
      exact hcs.imp_right fun h => ⟨h.1, ih h.2⟩

/-- Safe characters make a legal address. -/
theorem legal_path_of_safe {tail : List Char} (htail : tail.all isSafe = true) :
    legalPath tail = true := by
  induction tail with
  | nil => rfl
  | cons c tail ih =>
      rw [List.all_cons, Bool.and_eq_true] at htail
      have hquery : legalQuery ([] ++ tail) = true := legal_query_append rfl htail.2
      rw [List.nil_append] at hquery
      obtain ⟨hpath, -⟩ := Bool.and_eq_true_iff.1 htail.1
      simp [legalPath, hpath, ih htail.2, hquery]

/-- A legal address stays legal if safe characters follow. -/
theorem legal_path_append {cs tail : List Char} (hcs : legalPath cs = true)
    (htail : tail.all isSafe = true) : legalPath (cs ++ tail) = true := by
  induction cs with
  | nil => exact legal_path_of_safe htail
  | cons c cs ih =>
      simp only [legalPath, List.cons_append, Bool.or_eq_true] at hcs ⊢
      refine hcs.imp_right fun h => ?_
      split at h
      · next hmark => simpa [hmark] using legal_query_append h htail
      · next hmark =>
          rw [Bool.and_eq_true] at h
          simp [hmark, h.1, ih h.2]

/-- A prefix of a legal query is legal. -/
theorem legal_query_of_append {cs tail : List Char} (h : legalQuery (cs ++ tail) = true) :
    legalQuery cs = true := by
  induction cs with
  | nil => rfl
  | cons c cs ih =>
      simp only [legalQuery, List.cons_append, Bool.or_eq_true, Bool.and_eq_true] at h ⊢
      exact h.imp_right fun h => ⟨h.1, ih h.2⟩

/-- A prefix of a legal address is legal. -/
theorem legal_path_of_append {cs tail : List Char} (h : legalPath (cs ++ tail) = true) :
    legalPath cs = true := by
  induction cs with
  | nil => rfl
  | cons c cs ih =>
      simp only [legalPath, List.cons_append, Bool.or_eq_true] at h ⊢
      refine h.imp_right fun h => ?_
      split at h
      · next hmark => simpa [hmark] using legal_query_of_append h
      · next hmark =>
          rw [Bool.and_eq_true] at h
          simp [hmark, h.1, ih h.2]

/-- Plain characters in front do not affect legality. -/
theorem legal_path_plain_append {front : List Char} (hfront : front.all isPlain = true)
    (cs : List Char) : legalPath (front ++ cs) = legalPath cs := by
  induction front with
  | nil => rfl
  | cons c front ih =>
      rw [List.all_cons, Bool.and_eq_true] at hfront
      obtain ⟨hc, hrest⟩ := hfront
      simp only [isPlain, Bool.and_eq_true, bne_iff_ne, ne_eq] at hc
      simp [legalPath, hc, ih hrest]

end Address

open Address Naming

/-- A request on an object of a namespace that goes by a label, on the status of the agent that the
label is made of, or on the events of the namespace. -/
inductive Request.Mentions (inNamespace name : String) : Request → Prop
  | derived {request : Request} {kind : Kind}
      (h : request.ref? = some ⟨kind, inNamespace, labelOf name⟩) :
      Mentions inNamespace name request
  | status (change : Json) :
      Mentions inNamespace name (.patchStatus ⟨.agent, inNamespace, name⟩ change)
  | event (event : Json) : Mentions inNamespace name (.createEvent inNamespace event)

/-- The legality of the path of a collection depends on the namespace only, for every kind. -/
theorem legal_path_collection_path_iff {root plural : String} (inNamespace : String)
    (hroot : root.toList.all isPlain = true) (hplural : plural.toList.all isSafe = true) :
    legalPath (collectionPath root inNamespace plural).toList = true ↔
      legalPath inNamespace.toList = true := by
  have hfront : (root ++ "/namespaces/").toList.all isPlain = true := by
    rw [String.toList_append, List.all_append, hroot]
    decide
  have hback : ("/" ++ plural).toList.all isSafe = true := by
    rw [String.toList_append, List.all_append, hplural]
    decide
  have hsplit : (collectionPath root inNamespace plural).toList =
      (root ++ "/namespaces/").toList ++ (inNamespace.toList ++ ("/" ++ plural).toList) := by
    simp [collectionPath, String.toList_append]
  rw [hsplit, legal_path_plain_append hfront]
  exact ⟨legal_path_of_append, fun h => legal_path_append h hback⟩

/-- The path of the objects of a kind is legal if and only if the namespace is. -/
theorem legal_path_kind_iff (kind : Kind) (inNamespace : String) :
    legalPath (collectionPath kind.root inNamespace kind.plural).toList = true ↔
      legalPath inNamespace.toList = true := by
  refine legal_path_collection_path_iff inNamespace ?_ ?_
  · cases kind <;> decide
  · cases kind <;> decide

/-- The characters of a label may occur anywhere in an address. -/
theorem is_safe_of_is_label_char {c : Char} (h : isLabelChar c = true) : isSafe c = true := by
  have hrange : 45 ≤ c.val.toNat ∧ c.val.toNat ≤ 57 ∨ 97 ≤ c.val.toNat ∧ c.val.toNat ≤ 122 := by
    rw [isLabelChar, Bool.or_eq_true, Bool.or_eq_true, is_lower_iff, is_digit_iff,
      decide_eq_true_eq] at h
    rcases h with (hlower | hdigit) | rfl
    · exact .inr hlower
    · omega
    · decide
  -- the characters that an address refuses are outside of these two ranges
  have hother : ∀ d : Char, d.val.toNat < 45 ∨ 57 < d.val.toNat ∧ d.val.toNat < 97 ∨
      122 < d.val.toNat → c ≠ d := by
    intro d hd heq
    subst heq
    omega
  have hvisible : isVisible c = true := by
    simp only [isVisible, Bool.and_eq_true, decide_eq_true_eq, bne_iff_ne, ne_eq]
    refine ⟨?_, hother _ (by decide)⟩
    show (32 : Nat) < c.val.toNat
    omega
  simp [isSafe, inPath, inQuery, hvisible, hother '<' (by decide), hother '>' (by decide),
    hother '`' (by decide), hother '"' (by decide)]

/-- The address of a request that does not lack a name is its text. -/
theorem address_eq_of_text {request : Request}
    (hname : ∀ ref, request.ref? = some ref → ref.name ≠ "") :
    request.address = ofText request.addressText := by
  unfold Request.address
  rw [if_neg]
  cases href : request.ref? with
  | none => simp
  | some ref => simpa using hname ref href

/-- The address of a request on an object with a name is its text. -/
theorem address_eq_of_text_of_ref {request : Request} {ref : ObjectRef}
    (href : request.ref? = some ref) (hname : ref.name ≠ "") :
    request.address = ofText request.addressText := by
  refine address_eq_of_text fun other hother => ?_
  obtain rfl := Option.some.inj (href.symm.trans hother)
  exact hname

/-- The address of a request on an object is legal if the path of the object is. -/
theorem legal_path_address_text {request : Request} {ref : ObjectRef}
    (href : request.ref? = some ref) (hpath : legalPath ref.path.toList = true) :
    legalPath request.addressText.toList = true := by
  cases request with
  | fetch other =>
      obtain rfl := Option.some.inj href
      exact hpath
  | apply other desired =>
      obtain rfl := Option.some.inj href
      simp only [Request.addressText, String.append_assoc, String.toList_append]
      exact legal_path_append hpath (by decide)
  | patchStatus other change =>
      obtain rfl := Option.some.inj href
      simp only [Request.addressText, String.toList_append]
      exact legal_path_append hpath (by decide)
  | delete other =>
      obtain rfl := Option.some.inj href
      simp only [Request.addressText, String.toList_append]
      exact legal_path_append hpath (by decide)
  | createEvent inNamespace event => cases href

/-- If the agent could be requested, a request of the same pass can be unsent for its length
only. -/
theorem too_long_of_mentions {inNamespace name : String} {request : Request} {fault : RequestFault}
    (hname : StartsAlphanumeric name)
    (hfetch : ∃ address, (Request.fetch ⟨.agent, inNamespace, name⟩).address = .ok address)
    (hmentions : request.Mentions inNamespace name) (hfault : request.address = .error fault) :
    fault = .tooLong := by
  have hnonempty : name ≠ "" := by
    intro heq
    subst heq
    obtain ⟨c, cs, htext, -⟩ := hname
    cases htext
  have hfetched : (Request.fetch ⟨.agent, inNamespace, name⟩).address =
      ofText (Request.fetch ⟨.agent, inNamespace, name⟩).addressText :=
    address_eq_of_text_of_ref rfl hnonempty
  rw [hfetched] at hfetch
  have hagent : legalPath (ObjectRef.path ⟨.agent, inNamespace, name⟩).toList = true :=
    ((of_text_iff _).1 hfetch).2
  -- the address of the agent is legal, and so is the namespace that is in it
  have hnamespace : legalPath inNamespace.toList = true := by
    rw [ObjectRef.path, String.toList_append, String.toList_append, List.append_assoc] at hagent
    exact (legal_path_kind_iff .agent inNamespace).1 (legal_path_of_append hagent)
  cases hmentions with
  | @derived request kind href =>
      rw [address_eq_of_text_of_ref href (label_of_ne_empty hname)] at hfault
      refine too_long_of_legal (legal_path_address_text href ?_) hfault
      rw [ObjectRef.path, String.append_assoc, String.toList_append]
      refine legal_path_append ((legal_path_kind_iff kind inNamespace).2 hnamespace) ?_
      rw [String.toList_append, List.all_append, Bool.and_eq_true]
      exact ⟨by decide, List.all_eq_true.2 fun c hc =>
        is_safe_of_is_label_char (is_label_char_of_mem_label_of hc)⟩
  | status change =>
      have hreported : (Request.patchStatus ⟨.agent, inNamespace, name⟩ change).address = _ :=
        address_eq_of_text_of_ref rfl hnonempty
      rw [hreported] at hfault
      exact too_long_of_legal (legal_path_address_text rfl hagent) hfault
  | event event =>
      have hrecorded : (Request.createEvent inNamespace event).address = _ :=
        address_eq_of_text fun ref href => by cases href
      rw [hrecorded] at hfault
      refine too_long_of_legal ?_ hfault
      rw [Request.addressText, String.toList_append]
      refine legal_path_append ?_ (by decide)
      exact (legal_path_collection_path_iff inNamespace (by decide) (by decide)).2 hnamespace

/-- All requests of a pass over the agent of a name can be sent: the one for the agent, and all
others that the pass may make. -/
structure Sendable (inNamespace name : String) : Prop where
  agent : ∃ address, (Request.fetch ⟨.agent, inNamespace, name⟩).address = .ok address
  others : ∀ request : Request, request.Mentions inNamespace name →
    ∀ fault, request.address ≠ .error fault

/-- The part of an address beside a namespace and a name is short. -/
theorem utf8_byte_size_address_text_le {request : Request} {ref : ObjectRef}
    (href : request.ref? = some ref) :
    request.addressText.utf8ByteSize ≤
      ref.inNamespace.utf8ByteSize + ref.name.utf8ByteSize + 200 := by
  have hpath : ref.path.utf8ByteSize ≤
      ref.inNamespace.utf8ByteSize + ref.name.utf8ByteSize + 100 := by
    have hroot : ref.kind.root.utf8ByteSize ≤ 40 := by cases ref.kind <;> decide
    have hplural : ref.kind.plural.utf8ByteSize ≤ 40 := by cases ref.kind <;> decide
    have hwords : "/namespaces/".utf8ByteSize = 12 ∧ "/".utf8ByteSize = 1 := by decide
    simp only [ObjectRef.path, collectionPath, String.utf8ByteSize_append]
    omega
  cases request with
  | createEvent inNamespace event => cases href
  | _ =>
      obtain rfl := Option.some.inj href
      have hquery : "?&force=true&fieldManager=".utf8ByteSize ≤ 40 ∧
          fieldManager.utf8ByteSize ≤ 40 ∧ "/status?".utf8ByteSize ≤ 40 ∧
          "?".utf8ByteSize ≤ 40 := by decide
      simp only [Request.addressText, String.utf8ByteSize_append]
      omega

/-- A text that is too long for an address has more bytes than the maximum. -/
theorem max_size_lt_of_too_long {request : Request} (h : request.address = .error .tooLong) :
    maxSize < request.addressText.utf8ByteSize := by
  unfold Request.address ofText at h
  split at h
  · cases h
  · split at h
    · assumption
    · simp only [] at h
      split at h <;> cases h

/-- All requests of a pass can be sent for names of moderate length. -/
theorem sendable_of_short {inNamespace name : String} (hname : StartsAlphanumeric name)
    (hfetch : ∃ address, (Request.fetch ⟨.agent, inNamespace, name⟩).address = .ok address)
    (hnameSize : inNamespace.utf8ByteSize + name.utf8ByteSize ≤ 60000)
    (hlabelSize : inNamespace.utf8ByteSize + (labelOf name).utf8ByteSize ≤ 60000) :
    Sendable inNamespace name where
  agent := hfetch
  others := by
    intro request hmentions fault hfault
    obtain rfl := too_long_of_mentions hname hfetch hmentions hfault
    have hlong := max_size_lt_of_too_long hfault
    unfold maxSize at hlong
    cases hmentions with
    | derived href =>
        have hsize := utf8_byte_size_address_text_le href
        simp only at hsize
        omega
    | status change =>
        have hsize := utf8_byte_size_address_text_le
          (show (Request.patchStatus ⟨.agent, inNamespace, name⟩ change).ref? = some _ from rfl)
        simp only at hsize
        omega
    | event event =>
        have hwords : "/apis/events.k8s.io/v1".utf8ByteSize ≤ 40 ∧
            "/namespaces/".utf8ByteSize ≤ 40 ∧
            "/".utf8ByteSize ≤ 40 ∧ "events".utf8ByteSize ≤ 40 ∧ "?".utf8ByteSize ≤ 40 := by decide
        simp only [Request.addressText, eventsPath, collectionPath,
          String.utf8ByteSize_append] at hlong
        omega

end AgentOperator.Api
