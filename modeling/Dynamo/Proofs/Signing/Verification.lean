import Dynamo.Decimal.Lemmas
import Dynamo.Proofs.Signing.Canonical

/-! # Signed requests verify

A verifier gets a request as it was sent, and shares the credentials with the signer. It reads the
time and the signature off the headers and computes the signature again; what the signer did to the
headers, it does not know.

* `Authorization.ofString?_authorization`: the parts of the header with the signature can be read off
  it, even where the credentials hold commas.
* `sign_verifies`: what was signed is accepted, and apart from time and signature no header changed. -/

namespace Dynamo.Signature

/-! ### The time -/

theorem isDigit_of_mem_padded {width n : Nat} {c : Char} (h : c ∈ Clock.padded width n) :
    c.isDigit := by
  rcases List.mem_append.mp h with h | h
  · rw [(List.mem_replicate.mp h).2]
    decide
  · exact Decimal.isDigit_of_mem_digitsOf h

theorem mem_basicDateChars {c : Clock} {x : Char} (h : x ∈ c.basicDateChars) :
    x.isDigit ∨ x = '-' ∨ x = '+' := by
  have hpadded : ∀ width n, x ∈ Clock.padded width n → x.isDigit ∨ x = '-' ∨ x = '+' :=
    fun width n hx => .inl (isDigit_of_mem_padded hx)
  rcases List.mem_append.mp h with h | h
  · rcases List.mem_append.mp h with h | h
    · unfold Clock.yearChars at h
      dsimp only at h
      split_ifs at h
      · exact (List.mem_cons.mp h).elim (fun hx => .inr (.inl hx)) (hpadded _ _)
      · exact (List.mem_cons.mp h).elim (fun hx => .inr (.inr hx)) (hpadded _ _)
      · exact hpadded _ _ h
    · exact hpadded _ _ h
  · exact hpadded _ _ h

/-- The date is what stands before the `T`. -/
theorem notMem_basicDateChars (c : Clock) : 'T' ∉ c.basicDateChars := fun h =>
  absurd (mem_basicDateChars h) (by decide)

theorem printable_of_mem_basicDateChars {c : Clock} {x : Char} (h : x ∈ c.basicDateChars) :
    Headers.Printable x := by
  rcases mem_basicDateChars h with hx | rfl | rfl
  · exact Headers.printable_of_isDigit hx
  · decide
  · decide

theorem takeWhile_basicText (now : Instant) :
    String.ofList (now.basicText.toList.takeWhile (· ≠ 'T')) = now.basicDate := by
  have hsplit : now.basicText.toList = (Clock.ofInstant now).basicDateChars ++ 'T' ::
      (Clock.padded 2 (Clock.ofInstant now).hour ++ Clock.padded 2 (Clock.ofInstant now).minute ++
        Clock.padded 2 (Clock.ofInstant now).second ++ ['Z']) := by
    simp [Instant.basicText, Clock.basicChars]
  rw [hsplit, Text.takeWhile_append_cons (notMem_basicDateChars _)]
  rfl

/-! ### The header with the signature -/

/-- What the header with the signature says. -/
structure Authorization where
  credential : String
  signedHeaders : List String
  signature : String

/-- The parts of the header, of which the last two hold no comma. -/
def Authorization.ofString? (s : String) : Option Authorization := do
  let (s, signature) ← Text.cutLast? ',' s.toList
  let (s, names) ← Text.cutLast? ',' s
  let credential ← s.dropPrefix? "AWS4-HMAC-SHA256 Credential=".toList
  let names ← names.dropPrefix? " SignedHeaders=".toList
  let signature ← signature.dropPrefix? " Signature=".toList
  return {
    credential := .ofList credential
    signedHeaders := (names.splitOn ';').map .ofList
    signature := .ofList signature }

theorem dropPrefix?_append (p s : List Char) : (p ++ s).dropPrefix? p = some s :=
  List.dropPrefix?_append_of_beq s (beq_self_eq_true p)

theorem Authorization.ofString?_authorization {accessKey scope signature : String}
    {names : List String} (hne : names ≠ [])
    (hnames : ∀ n ∈ names, ',' ∉ n.toList ∧ ';' ∉ n.toList) (hsig : ',' ∉ signature.toList) :
    ofString? (authorization accessKey scope (";".intercalate names) signature) =
      some ⟨accessKey ++ "/" ++ scope, names, signature⟩ := by
  have hparts : (authorization accessKey scope (";".intercalate names) signature).toList =
      (("AWS4-HMAC-SHA256 Credential=".toList ++ (accessKey ++ "/" ++ scope).toList) ++ ',' ::
        (" SignedHeaders=".toList ++ (";".intercalate names).toList)) ++ ',' ::
          (" Signature=".toList ++ signature.toList) := by
    simp [authorization, algorithm]
  have hcomma : ',' ∉ " SignedHeaders=".toList ++ (";".intercalate names).toList := by
    rw [List.mem_append, not_or]
    exact ⟨by decide, Text.notMem_intercalate (by decide) fun n hn => (hnames n hn).1⟩
  have hcomma' : ',' ∉ " Signature=".toList ++ signature.toList := by
    rw [List.mem_append, not_or]
    exact ⟨by decide, hsig⟩
  have hsplit : (";".intercalate names).toList.splitOn ';' = names.map String.toList :=
    Text.splitOn_toList_intercalate (by decide) hne fun n hn => (hnames n hn).2
  rw [ofString?, hparts, Text.cutLast?_append_cons hcomma']
  simp only [Option.bind_eq_bind, Option.bind_some, Text.cutLast?_append_cons hcomma,
    dropPrefix?_append, hsplit, List.map_map, String.ofList_toList]
  have hnames' : names.map (String.ofList ∘ String.toList) = names :=
    (List.map_congr_left fun n _ => String.ofList_toList).trans (List.map_id _)
  rw [hnames']
  rfl

/-! ### The verifier -/

/-- **Is the request signed with the credentials?** -/
def verifies (t : Target) (c : Credentials) (hs : Headers) : Bool :=
  let signed? := do
    let timestamp ← (hs.first? dateHeader).bind Bytes.text?
    let auth ← ((hs.first? authorizationHeader).bind Bytes.text?).bind Authorization.ofString?
    let headers ← (Canonical.ofHeaders (hs.remove authorizationHeader)).toOption
    return (timestamp, auth, headers)
  match signed? with
  | none => false
  | some (timestamp, auth, headers) =>
    let date := String.ofList (timestamp.toList.takeWhile (· ≠ 'T'))
    let scope := "/".intercalate [date, c.region, c.service, "aws4_request"]
    let request := Canonical.request t.method t.path t.query headers (Sha256.digest t.body).hex
    let text := "\n".intercalate
      ["AWS4-HMAC-SHA256", timestamp, scope, (Sha256.digest (.ofString request)).hex]
    let dateKey := Hmac.digest (.ofString ("AWS4" ++ c.secretKey)) (.ofString date)
    let regionKey := Hmac.digest dateKey (.ofString c.region)
    let serviceKey := Hmac.digest regionKey (.ofString c.service)
    let key := Hmac.digest serviceKey (.ofString "aws4_request")
    auth.credential = c.accessKey ++ "/" ++ scope &&
      auth.signature = (Hmac.digest key (.ofString text)).hex

/-! ### What signing leaves -/

theorem sign_eq_ok {t : Target} {c : Credentials} {now : Instant} {hs hs' : Headers} :
    sign t c now hs = (.ok (), hs') ↔
      ∃ ch value, Canonical.ofHeaders (stamped now.basicText hs) = .ok ch ∧
        Headers.value? (authorizationFor t c ch now.basicText now.basicDate) = some value ∧
        (stamped now.basicText hs).insert authorizationHeader value = hs' := by
  rw [sign]
  cases hch : Canonical.ofHeaders (stamped now.basicText hs) with
  | error e => simp
  | ok ch =>
    cases hvalue : Headers.value? (authorizationFor t c ch now.basicText now.basicDate) with
    | none => simp [hvalue]
    | some value => simp [hvalue]

theorem eq_ofString_of_value? {s : String} {value : Bytes} (h : Headers.value? s = some value) :
    value = .ofString s := by
  unfold Headers.value? at h
  dsimp only at h
  split_ifs at h
  exact (Option.some.inj h).symm

variable {timestamp : String} {hs : Headers}

theorem remove_stamped :
    (stamped timestamp hs).remove authorizationHeader = stamped timestamp hs := by
  rw [stamped, Headers.remove_insert_of_ne (by decide), Headers.remove_remove]

theorem valuesOf_stamped_date :
    (stamped timestamp hs).valuesOf dateHeader = [.ofString timestamp] :=
  Headers.valuesOf_insert_self dateHeader _ _

theorem valuesOf_stamped_of_ne {name : String} (hauth : name ≠ authorizationHeader)
    (hdate : name ≠ dateHeader) : (stamped timestamp hs).valuesOf name = hs.valuesOf name := by
  rw [stamped, Headers.valuesOf_insert_of_ne (show name ≠ lowerAscii dateHeader from hdate),
    Headers.valuesOf_remove_of_ne (show name ≠ lowerAscii authorizationHeader from hauth)]

theorem named_stamped (hn : hs.Named) : (stamped timestamp hs).Named :=
  (hn.remove authorizationHeader).insert _ ⟨by decide, Text.forall_mem_of_all (by decide)⟩

theorem dateHeader_mem_names : dateHeader ∈ (stamped timestamp hs).names :=
  Headers.mem_names.mpr ⟨(lowerAscii dateHeader, .ofString timestamp), by simp [stamped,
    Headers.insert, Headers.append], rfl⟩

/-- The signature that `sign` makes. -/
def signatureFor (t : Target) (c : Credentials) (ch : CanonicalHeaders) (timestamp date : String) :
    String :=
  let request := Canonical.request t.method t.path t.query ch (payloadHash t.body)
  compute (signingKey c.secretKey date c.region c.service)
    (stringToSign timestamp (c.scope date) (payloadHash (.ofString request)))

theorem ofString?_authorizationFor {t : Target} {c : Credentials} {ch : CanonicalHeaders}
    (hn : hs.Named) (hne : hs.names ≠ []) (hch : Canonical.ofHeaders hs = .ok ch)
    (timestamp date : String) :
    Authorization.ofString? (authorizationFor t c ch timestamp date) =
      some ⟨c.accessKey ++ "/" ++ c.scope date, Canonical.ascending hs.names,
        signatureFor t c ch timestamp date⟩ := by
  obtain ⟨fs, -, hch⟩ := (Canonical.ofHeaders_eq_ok hn).mp hch
  have hsigned : ch.signedHeaders = ";".intercalate (Canonical.ascending hs.names) := by rw [hch]
  have hperm := Canonical.perm_ascending hs.names
  have hchars : ∀ n ∈ Canonical.ascending hs.names, ',' ∉ n.toList ∧ ';' ∉ n.toList := by
    intro n hmem
    have hname := (hn.of_mem_names (hperm.mem_iff.mp hmem)).2
    exact ⟨fun hc => Headers.ne_of_isNameChar (hname _ hc) (by decide) rfl,
      fun hc => Headers.ne_of_isNameChar (hname _ hc) (by decide) rfl⟩
  rw [authorizationFor, hsigned]
  refine Authorization.ofString?_authorization ?_ hchars (Bytes.notMem_hex (by decide) _)
  intro hnil
  exact hne (List.perm_nil.mp (hnil ▸ hperm).symm)

theorem printable_authorizationFor {t : Target} {c : Credentials} {ch : CanonicalHeaders}
    {now : Instant} (hn : hs.Named) (hch : Canonical.ofHeaders hs = .ok ch)
    (hkey : ∀ x ∈ c.accessKey.toList, Headers.Printable x)
    (hregion : ∀ x ∈ c.region.toList, Headers.Printable x)
    (hservice : ∀ x ∈ c.service.toList, Headers.Printable x) :
    ∀ x ∈ (authorizationFor t c ch now.basicText now.basicDate).toList, Headers.Printable x := by
  obtain ⟨fs, -, rfl⟩ := (Canonical.ofHeaders_eq_ok hn).mp hch
  have hdate : ∀ x ∈ now.basicDate.toList, Headers.Printable x := by
    rw [Instant.basicDate, String.toList_ofList]
    exact fun x hx => printable_of_mem_basicDateChars hx
  have hscope : ∀ x ∈ (c.scope now.basicDate).toList, Headers.Printable x :=
    Text.forall_mem_intercalate (Text.forall_mem_of_all (by decide)) (by
      simpa only [List.forall_mem_cons, List.not_mem_nil, false_imp_iff, implies_true, and_true]
        using ⟨hdate, hregion, hservice, Text.forall_mem_of_all (by decide)⟩)
  have hnames : ∀ x ∈ (";".intercalate (Canonical.ascending hs.names)).toList,
      Headers.Printable x := by
    refine Text.forall_mem_intercalate (Text.forall_mem_of_all (by decide)) fun n hmem x hx => ?_
    have hname := hn.of_mem_names ((Canonical.perm_ascending _).mem_iff.mp hmem)
    exact Headers.printable_of_isNameChar (hname.2 x hx)
  have hsignature : ∀ bs : Bytes, ∀ x ∈ bs.hex.toList, Headers.Printable x :=
    Bytes.forall_mem_hex (by decide)
  have hliteral := @Text.forall_mem_of_all Headers.Printable _
  simp only [authorizationFor, authorization, String.toList_append, List.forall_mem_append]
  exact ⟨⟨⟨⟨⟨⟨⟨⟨hliteral (by decide), hliteral (by decide)⟩, hkey⟩, hliteral (by decide)⟩, hscope⟩,
    hliteral (by decide)⟩, hnames⟩, hliteral (by decide)⟩, hsignature _⟩

/-- Signing succeeds if all headers can be signed and the credentials can be shown. -/
theorem exists_sign {t : Target} {c : Credentials} {now : Instant} (hn : hs.Named)
    (hvisible : ∃ ch, Canonical.ofHeaders (stamped now.basicText hs) = .ok ch)
    (hkey : ∀ x ∈ c.accessKey.toList, Headers.Printable x)
    (hregion : ∀ x ∈ c.region.toList, Headers.Printable x)
    (hservice : ∀ x ∈ c.service.toList, Headers.Printable x) :
    ∃ hs', sign t c now hs = (.ok (), hs') := by
  obtain ⟨ch, hch⟩ := hvisible
  have htext : ∀ x ∈ (authorizationFor t c ch now.basicText now.basicDate).toList,
      Headers.Printable x :=
    printable_authorizationFor (named_stamped hn) hch hkey hregion hservice
  exact ⟨_, sign_eq_ok.mpr ⟨ch, _, hch, Headers.value?_of_printable htext, rfl⟩⟩

/-- The verifier accepts the signature of its own credentials for the headers it sees. -/
theorem verifies_of_signatureFor {t : Target} {c : Credentials} {now : Instant}
    {ch : CanonicalHeaders} {text : String} {auth : Authorization}
    (hdate : hs.first? dateHeader = some (.ofString now.basicText))
    (hauth : hs.first? authorizationHeader = some (.ofString text))
    (hread : Authorization.ofString? text = some auth)
    (hch : Canonical.ofHeaders (hs.remove authorizationHeader) = .ok ch)
    (hcredential : auth.credential = c.accessKey ++ "/" ++ c.scope now.basicDate)
    (hsignature : auth.signature = signatureFor t c ch now.basicText now.basicDate) :
    verifies t c hs = true := by
  have hdate' : (hs.first? dateHeader).bind Bytes.text? = some now.basicText := by
    rw [hdate]
    exact Bytes.text?_ofString _
  have hauth' : ((hs.first? authorizationHeader).bind Bytes.text?).bind Authorization.ofString? =
      some auth := by
    rw [hauth, Option.bind_some, Bytes.text?_ofString]
    exact hread
  rw [verifies, hdate', hauth', hch]
  show (decide _ && decide _) = true
  rw [takeWhile_basicText, Bool.and_eq_true, decide_eq_true_eq, decide_eq_true_eq]
  exact ⟨hcredential, hsignature⟩

/-- **A signed request verifies.** All values but those of time and signature are kept, there is one of
each of these two, the signature lists the names of all other headers once and in ascending order, and
who shares the credentials and sees the result accepts it. -/
theorem sign_verifies {t : Target} {c : Credentials} {now : Instant} {hs hs' : Headers}
    (hn : hs.Named) (h : sign t c now hs = (.ok (), hs')) :
    (∀ name, name ≠ authorizationHeader → name ≠ dateHeader →
      hs'.valuesOf name = hs.valuesOf name) ∧
    (∃ timestamp, hs'.valuesOf dateHeader = [timestamp]) ∧
    (∃ text auth, hs'.valuesOf authorizationHeader = [Bytes.ofString text] ∧
      Authorization.ofString? text = some auth ∧ auth.signedHeaders.Pairwise (· < ·) ∧
      ∀ name, name ∈ auth.signedHeaders ↔
        name ≠ authorizationHeader ∧ name ∈ hs'.map (·.1)) ∧
    verifies t c hs' = true := by
  obtain ⟨ch, value, hch, hvalue, hset⟩ := sign_eq_ok.mp h
  obtain rfl := eq_ofString_of_value? hvalue
  have hkept : ∀ name, name ≠ authorizationHeader →
      hs'.valuesOf name = (stamped now.basicText hs).valuesOf name := by
    intro name hname
    have hname' : name ≠ lowerAscii authorizationHeader := hname
    rw [← hset, Headers.valuesOf_insert_of_ne hname']
  have hdate : hs'.valuesOf dateHeader = [.ofString now.basicText] :=
    (hkept dateHeader (by decide)).trans valuesOf_stamped_date
  have hauth : hs'.valuesOf authorizationHeader =
      [.ofString (authorizationFor t c ch now.basicText now.basicDate)] := by
    rw [← hset]
    exact Headers.valuesOf_insert_self authorizationHeader _ _
  -- without the signature, the headers are those that were signed
  have hremove : hs'.remove authorizationHeader = stamped now.basicText hs := by
    rw [← hset, Headers.remove_insert_self, remove_stamped]
  have hread := ofString?_authorizationFor (t := t) (c := c) (named_stamped hn)
    (List.ne_nil_of_mem dateHeader_mem_names) hch now.basicText now.basicDate
  refine ⟨fun name hne hne' => ?_, ⟨_, hdate⟩, ⟨_, _, hauth, hread, ?_, fun name => ?_⟩, ?_⟩
  · exact (hkept name hne).trans (valuesOf_stamped_of_ne hne hne')
  · exact Canonical.ascending_pairwise (Headers.nodup_names _)
  · rw [(Canonical.perm_ascending _).mem_iff, Headers.mem_names, ← List.mem_map, ← hremove]
    exact Headers.mem_map_remove
  · refine verifies_of_signatureFor ?_ ?_ hread (hremove ▸ hch) rfl rfl
    · rw [Headers.first?_eq_head?]
      exact congrArg List.head? hdate
    · rw [Headers.first?_eq_head?]
      exact congrArg List.head? hauth

/-- A request that was signed before, and carries two times and two hosts. -/
theorem sign_verifies_again :
    let hs : Headers := [("authorization", Bytes.ofString "old"), ("host", Bytes.ofString "db"),
      ("x-amz-date", Bytes.ofString "20000101T000000Z"), ("host", Bytes.ofString "other"),
      ("x-amz-date", Bytes.ofString "later")]
    let c : Credentials := ⟨"us-east-1", "AK,ID", "secret", "dynamodb"⟩
    let signed := sign ⟨"POST", "/", "", []⟩ c ⟨1369353600, 0⟩ hs
    hs.Named ∧ signed = (.ok (), signed.2) ∧
      signed.2.valuesOf "host" = [Bytes.ofString "db", Bytes.ofString "other"] ∧
      verifies ⟨"POST", "/", "", []⟩ c signed.2 = true := by
  intro hs c signed
  have hn : hs.Named := by decide
  have hvisible : ∃ ch, Canonical.ofHeaders
      (stamped (Instant.mk 1369353600 0).basicText hs) = .ok ch :=
    ⟨_, (Canonical.ofHeaders_eq_ok (named_stamped hn)).mpr
      ⟨[("host", "db"), ("x-amz-date", "20130524T000000Z")], by cbv, rfl⟩⟩
  have hshown := @Text.forall_mem_of_all Headers.Printable _
  obtain ⟨hs', hsign⟩ := exists_sign (t := ⟨"POST", "/", "", []⟩) (c := c) hn hvisible
    (hshown (by decide)) (hshown (by decide)) (hshown (by decide))
  have hok : signed.1 = .ok () := congrArg Prod.fst hsign
  have h : signed = (.ok (), signed.2) := Prod.ext hok rfl
  obtain ⟨hkept, -, -, hverifies⟩ := sign_verifies hn h
  exact ⟨hn, h, (hkept "host" (by decide) (by decide)).trans (by cbv), hverifies⟩

end Dynamo.Signature
