import CloudOps.Notifications.NotificationDispatcherService
import CloudOps.Ticketing.InboundEmail
import Mathlib.Data.List.TakeWhile

namespace CloudOps.Ticketing

open CloudOps.Notifications (RenderedMessage)

-- What addMessage puts into the payload of an agent's public reply for its template.
structure TicketReplyPayload where
  ticketNumber : Nat
  subject : String
  body : String
  agentName : Option String
  bodyHtml : Option String

def escapeHtml (value : String) : String :=
  String.ofList (value.toList.flatMap fun c =>
    if c = '&' then "&amp;".toList
    else if c = '<' then "&lt;".toList
    else if c = '>' then "&gt;".toList
    else if c = '"' then "&quot;".toList
    else [c])

-- The template ticket.reply.
def ticketReply (payload : TicketReplyPayload) : RenderedMessage :=
  let agentName := (payload.agentName.filter fun agentName => agentName ≠ "").getD "Support"
  let bodyHtml := payload.bodyHtml.filter fun bodyHtml => bodyHtml ≠ ""
  { subject := s!"[Ticket #{payload.ticketNumber}] {payload.subject}"
    body := s!"{payload.body}\n\n— {agentName}"
    html := bodyHtml.map fun bodyHtml => s!"{bodyHtml}<p>— {escapeHtml agentName}</p>" }

-- A ticket tag with this number's digits: [Ticket #digits], its letters in either case.
structure TicketTag (text digits : List Char) : Prop where
  nonempty : digits ≠ []
  isDigit : ∀ c ∈ digits, c.isDigit = true
  spelled : ∃ opening, opening.map Char.toLower = "[ticket #".toList ∧ text = opening ++ digits ++ [']']

def ContainsTag (text : List Char) : Prop := ∃ front tag digits back, TicketTag tag digits ∧ text = front ++ tag ++ back

theorem opening_length {opening : List Char} (h : opening.map Char.toLower = "[ticket #".toList) :
    opening.length = "[ticket #".toList.length := by
  rw [← h, List.length_map]

-- The reference at the head of a text is the number of the tag that it begins with.
theorem ticketReference_of_tag {tag digits : List Char} (h : TicketTag tag digits) (back : List Char) :
    ticketReference (tag ++ back) = some (Nat.ofDigitChars 10 digits 0) := by
  obtain ⟨opening, hopening, rfl⟩ := h.spelled
  have hlength := opening_length hopening
  have hdigits : (digits ++ ']' :: back).takeWhile Char.isDigit = digits := by
    rw [List.takeWhile_append_of_pos h.isDigit, List.takeWhile_cons_of_neg (by decide), List.append_nil]
  have htext : opening ++ digits ++ [']'] ++ back = opening ++ (digits ++ ']' :: back) := by simp
  have hdrop : (opening ++ (digits ++ ']' :: back)).drop ("[ticket #".toList.length + digits.length)
      = ']' :: back := by
    rw [← hlength, ← List.drop_drop, List.drop_left, List.drop_left]
  have hbegins : beginsWith "[ticket #".toList (opening ++ (digits ++ ']' :: back)) = true := by
    rw [beginsWith, ← hlength, List.take_left, hopening, beq_self_eq_true]
  rw [htext, ticketReference]
  simp only [hbegins, ← hlength, List.drop_left, hdigits]
  rw [Nat.ofDigitChars_eq_foldl]
  simp [h.nonempty]

theorem tag_of_ticketReference {text : List Char} {number : Nat} (h : ticketReference text = some number) :
    ∃ tag digits back, TicketTag tag digits ∧ text = tag ++ back ∧ Nat.ofDigitChars 10 digits 0 = number := by
  unfold ticketReference at h
  simp only [Option.ite_none_right_eq_some, Bool.and_eq_true, Option.some.injEq] at h
  obtain ⟨⟨⟨hbegins, hne⟩, hclosed⟩, hnumber⟩ := h
  generalize hdigits : (text.drop "[ticket #".toList.length).takeWhile Char.isDigit = digits
    at hne hclosed hnumber
  obtain ⟨after, hafter⟩ : ∃ after, text.drop "[ticket #".toList.length = digits ++ after :=
    ⟨_, by rw [← hdigits, List.takeWhile_append_dropWhile]⟩
  rw [← List.drop_drop, hafter, List.drop_left] at hclosed
  obtain ⟨back, rfl⟩ : ∃ back, after = ']' :: back := by
    cases after with
    | nil => simp at hclosed
    | cons c back => exact ⟨back, by simpa using hclosed⟩
  refine ⟨text.take "[ticket #".toList.length ++ digits ++ [']'], digits, back, ⟨?_, ?_, ?_⟩, ?_, ?_⟩
  · simpa using hne
  · rw [← hdigits]
    exact fun c hc => List.mem_takeWhile_imp hc
  · exact ⟨_, by simpa [beginsWith] using hbegins, rfl⟩
  · calc text = text.take "[ticket #".toList.length ++ text.drop "[ticket #".toList.length :=
          (List.take_append_drop _ text).symm
      _ = _ := by rw [hafter]; simp
  · rw [Nat.ofDigitChars_eq_foldl, hnumber]

-- A tag has no bracket behind its first character.
theorem TicketTag.bracket {tag digits : List Char} (h : TicketTag tag digits) {front back : List Char}
    (hsplit : tag = front ++ '[' :: back) : front = [] := by
  obtain ⟨opening, hopening, htag⟩ := h.spelled
  cases front with
  | nil => rfl
  | cons f front =>
    cases opening with
    | nil => simp at hopening
    | cons o opening =>
      have hletters : opening.map Char.toLower = "ticket #".toList := (List.cons.inj hopening).2
      have htail : opening ++ digits ++ [']'] = front ++ '[' :: back := by
        rw [htag] at hsplit
        exact (List.cons.inj hsplit).2
      have hbracket : '[' ∈ opening ++ digits ++ [']'] := by simp [htail]
      rw [List.mem_append, List.mem_append, List.mem_singleton] at hbracket
      rcases hbracket with (hin | hin) | heq
      · have hlower : Char.toLower '[' ∈ opening.map Char.toLower := List.mem_map_of_mem hin
        rw [hletters] at hlower
        exact absurd hlower (by decide)
      · exact absurd (h.isDigit _ hin) (by decide)
      · exact absurd heq (by decide)

theorem not_containsTag_nil : ¬ ContainsTag [] := by
  rintro ⟨front, tag, digits, back, htag, hsplit⟩
  obtain ⟨opening, -, rfl⟩ := htag.spelled
  simpa using congrArg List.length hsplit

theorem containsTag_cons {c : Char} {text : List Char} :
    ContainsTag (c :: text) ↔ (∃ number, ticketReference (c :: text) = some number) ∨ ContainsTag text := by
  constructor
  · rintro ⟨front, tag, digits, back, htag, hsplit⟩
    cases front with
    | nil => exact .inl ⟨_, by rw [hsplit]; exact ticketReference_of_tag htag back⟩
    | cons f front => exact .inr ⟨front, tag, digits, back, htag, (List.cons.inj hsplit).2⟩
  · rintro (⟨number, hnumber⟩ | ⟨front, tag, digits, back, htag, rfl⟩)
    · obtain ⟨tag, digits, back, htag, hsplit, -⟩ := tag_of_ticketReference hnumber
      exact ⟨[], tag, digits, back, htag, hsplit⟩
    · exact ⟨c :: front, tag, digits, back, htag, rfl⟩

-- The search finds a reference exactly where there is a tag.
theorem firstReference_eq_none_iff (text : List Char) : firstReference text = none ↔ ¬ ContainsTag text := by
  induction text with
  | nil => simp [firstReference, not_containsTag_nil]
  | cons c text ih =>
    rw [firstReference, Option.or_eq_none_iff, ih, containsTag_cons, not_or, Option.eq_none_iff_forall_ne_some,
      not_exists]

instance (text : List Char) : Decidable (ContainsTag text) :=
  decidable_of_iff (firstReference text ≠ none) (by rw [ne_eq, firstReference_eq_none_iff, not_not])

-- Behind a text without a tag, the first reference is that of the tag that follows it.
theorem firstReference_append {text tag digits : List Char} (hfree : ¬ ContainsTag text)
    (h : TicketTag tag digits) (hhead : tag.head? = some '[') (back : List Char) :
    firstReference (text ++ (tag ++ back)) = some (Nat.ofDigitChars 10 digits 0) := by
  induction text with
  | nil =>
    have htag := ticketReference_of_tag h back
    cases tag with
    | nil => simp at hhead
    | cons c tag => simpa [firstReference] using congrArg (Option.or · _) htag
  | cons c text ih =>
    have hnone : ticketReference (c :: (text ++ (tag ++ back))) = none := by
      rw [Option.eq_none_iff_forall_ne_some]
      intro number hnumber
      obtain ⟨first, firstDigits, after, hfirst, hsplit, -⟩ := tag_of_ticketReference hnumber
      rw [← List.cons_append] at hsplit
      rcases List.append_eq_append_iff.mp hsplit with ⟨rest, hover, hrest⟩ | ⟨rest, hwithin, -⟩
      · -- a tag that runs on past the text would have the bracket of the next one in it
        cases rest with
        | nil => exact hfree ⟨[], first, firstDigits, [], hfirst, by simpa using hover.symm⟩
        | cons r rest =>
          obtain rfl : r = '[' := by
            cases tag with
            | nil => simp at hhead
            | cons t tag => exact (List.cons.inj hrest).1.symm.trans (by simpa using hhead)
          exact absurd (hfirst.bracket hover) (by simp)
      · exact hfree ⟨[], first, firstDigits, rest, hfirst, by simpa using hwithin⟩
    have hrest : ¬ ContainsTag text := fun hin => hfree (containsTag_cons.mpr (.inr hin))
    rw [List.cons_append, firstReference, hnone, Option.none_or, ih hrest]

def renderedTag (number : Nat) : List Char := "[Ticket #".toList ++ Nat.toDigits 10 number ++ [']']

theorem renderedTag_isTag (number : Nat) : TicketTag (renderedTag number) (Nat.toDigits 10 number) where
  nonempty := Nat.toDigits_ne_nil
  isDigit := fun _ hc => Nat.isDigit_of_mem_toDigits (by omega) (by omega) hc
  spelled := ⟨"[Ticket #".toList, by decide, rfl⟩

theorem renderedTag_head (number : Nat) : (renderedTag number).head? = some '[' := by
  have hopening : "[Ticket #".toList = ['[', 'T', 'i', 'c', 'k', 'e', 't', ' ', '#'] := by simp
  unfold renderedTag
  rw [hopening]
  simp only [List.cons_append, List.head?_cons]

theorem ticketReply_subject (payload : TicketReplyPayload) :
    (ticketReply payload).subject.toList
      = renderedTag payload.ticketNumber ++ ' ' :: payload.subject.toList := by
  have hself : ∀ s : String, toString s = s := fun _ => rfl
  unfold ticketReply renderedTag
  simp [hself]

theorem extract_ticketReply {front : String} (hfree : ¬ ContainsTag front.toList) (payload : TicketReplyPayload) :
    extractReferencedTicketNumber (front ++ (ticketReply payload).subject) = some payload.ticketNumber := by
  have hfirst := firstReference_append hfree (renderedTag_isTag payload.ticketNumber)
    (renderedTag_head payload.ticketNumber) (' ' :: payload.subject.toList)
  rw [Nat.ofDigitChars_ten_toDigits] at hfirst
  rw [extractReferencedTicketNumber, String.toList_append, ticketReply_subject, hfirst]

-- The answer to a reply mail goes to the ticket the mail was about, whatever its subject
-- says and whatever a mail client has put before it.
theorem reply_mail_threads (payload : TicketReplyPayload) (front : String) (hfree : ¬ ContainsTag front.toList) :
    let subject := front ++ (ticketReply payload).subject
    extractReferencedTicketNumber subject = some payload.ticketNumber
      ∧ ∀ (env : Environment) (parsed : ParsedMail) (sender : MailAddress) (address : String)
          (store : TicketStore) (id : Uuid) (ticket : Ticket),
        parsed.subject = some subject → parsed.fromValue.head? = some sender →
        sender.address = some address → address ≠ "" →
        (findByTicketNumber payload.ticketNumber).run store = .ok (some (id, ticket), store) →
        processInboundEmail env parsed store
          = .addMessage (env.uuidText id) (contactReply none (extractBody parsed))
              ⟨env.uuidText id, ticket.ticketNumber, false⟩ := by
  have hextract := extract_ticketReply hfree payload
  refine ⟨hextract, ?_⟩
  intro env parsed sender address store id ticket hsubject hsender haddress hne hfind
  have hfilter : (some address).filter (fun address => decide (address ≠ "")) = some address := by
    simp [Option.filter, hne]
  simp only [processInboundEmail, hsender, Option.bind_some, haddress, hfilter, Option.map_some, hsubject,
    Option.getD_some, hextract, hfind]

theorem replies_thread :
    extractReferencedTicketNumber
        ("Re: Re: " ++ (ticketReply ⟨42, "[Ticket #7] is back", "Fixed.", none, none⟩).subject) = some 42 :=
  (reply_mail_threads ⟨42, "[Ticket #7] is back", "Fixed.", none, none⟩ "Re: Re: " (by decide)).1

end CloudOps.Ticketing
