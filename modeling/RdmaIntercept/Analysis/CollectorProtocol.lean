import RdmaIntercept.Model.CollectorClient

/-!
# Client and server of the collector speak the same language

The client writes its requests and the server reads them with texts of their own; the same
holds for the responses.  Every request is dispatched to the operation it is meant for,
with the length it names, and the client takes from every response what the server has
decided.
-/

set_option autoImplicit false

namespace RdmaIntercept.Analysis

open RdmaIntercept.Library RdmaIntercept.Library.CText RdmaIntercept.Model

variable {s : CollectorServer}

/-! ## Requests -/

/-- The number in a request fits into its buffer. -/
theorem lengthRequest_eq {word : Bytes} (h : word.length ≤ 43) (length : UInt64) :
    lengthRequest word length = word ++ decimal length.toNat := by
  have hlt := length.toNat_lt
  have hdigits : (decimal length.toNat).length ≤ 20 := length_decimal_le (by omega) (by omega)
  apply List.take_of_length_le
  rw [List.length_append]
  omega

/-- The server reads such a request as it was built. -/
theorem requestString_lengthRequest {word : Bytes} (h : word.length ≤ 43)
    (hnul : (0 : UInt8) ∉ word) (hnewline : (10 : UInt8) ∉ word) (length : UInt64) :
    requestString (lengthRequest word length) = word ++ decimal length.toNat := by
  have hlt := length.toNat_lt
  have hdigits : (decimal length.toNat).length ≤ 20 := length_decimal_le (by omega) (by omega)
  have hno : ∀ c : UInt8, isDigit c = false → c ∉ word → c ∉ word ++ decimal length.toNat := by
    intro c hc hword hmem
    rcases List.mem_append.mp hmem with hin | hin
    · exact hword hin
    · exact notMem_decimal hc hin
  have hfits : (word ++ decimal length.toNat).take (1024 - 1) = word ++ decimal length.toNat := by
    apply List.take_of_length_le
    rw [List.length_append]
    omega
  rw [requestString, received, lengthRequest_eq h, hfits,
    terminated_of_notMem (hno 0 (by decide) hnul), List.takeWhile_eq_self_iff]
  intro c hc
  simp only [ne_eq, decide_eq_true_eq]
  rintro rfl
  exact hno 10 (by decide) hnewline hc

theorem withLength_decimal (operation : CollectorServer → UInt64 → Bytes × CollectorServer)
    (invalid : Bytes) (length : UInt64) :
    withLength s (decimal length.toNat) operation invalid = operation s length := by
  have hscan : scanSize (decimal length.toNat ++ []) = some length :=
    scanSize_decimal length fun c hc => by simp at hc
  rw [List.append_nil] at hscan
  rw [withLength, hscan]

/-- The words of the requests that name a length. -/
structure LengthWord (word : Bytes) : Prop where
  short : word.length ≤ 43
  noNul : (0 : UInt8) ∉ word
  noNewline : (10 : UInt8) ∉ word
  noG : word.head? ≠ some 71
  noQ : word.head? ≠ some 81
  nonempty : word ≠ []

theorem isPrefixOf_append (a b : Bytes) : a.isPrefixOf (a ++ b) = true :=
  List.isPrefixOf_iff_prefix.mpr (List.prefix_append a b)

/-- A request with a length gets past the tests for the others, which begin with a `G` or
a `Q`. -/
theorem mainLoop_lengthRequest {word : Bytes} (h : LengthWord word) (length : UInt64) :
    mainLoop s (lengthRequest word length) =
      if (text "MR_CREATE ").isPrefixOf (word ++ decimal length.toNat) then
        withLength s ((word ++ decimal length.toNat).drop 10) mrCreate
          (text "Error: Invalid MR_CREATE request\n")
      else if (text "CHECK_MEMORY ").isPrefixOf (word ++ decimal length.toNat) then
        withLength s ((word ++ decimal length.toNat).drop 13) checkMemory
          (text "Error: Invalid CHECK_MEMORY request\n")
      else if (text "MR_DESTROY ").isPrefixOf (word ++ decimal length.toNat) then
        withLength s ((word ++ decimal length.toNat).drop 11) mrDestroy
          (text "Error: Invalid MR_DESTROY request\n")
      else (text "Error: Unknown request\n", s) := by
  have hread := requestString_lengthRequest h.short h.noNul h.noNewline length
  have hsent : lengthRequest word length ≠ [] := by
    rw [lengthRequest_eq h.short]
    exact List.append_ne_nil_of_left_ne_nil h.nonempty _
  have hhead : (word ++ decimal length.toNat).head? = word.head? :=
    List.head?_append_of_ne_nil _ h.nonempty
  have hne : ∀ other : Bytes, other.head? ≠ word.head? → word ++ decimal length.toNat ≠ other := by
    rintro other hother rfl
    exact hother hhead
  have hproc : (text "GET_PROC_STATS:").isPrefixOf (word ++ decimal length.toNat) = false := by
    rw [← Bool.not_eq_true, List.isPrefixOf_iff_prefix]
    rintro ⟨rest, hrest⟩
    apply h.noG
    rw [← hhead, ← hrest]
    rfl
  simp only [mainLoop, hread, hsent, if_false, hproc, Bool.false_eq_true,
    hne (text "GET_STATS") h.noG.symm, hne (text "QP_CREATE") h.noQ.symm,
    hne (text "QP_DESTROY") h.noQ.symm]

theorem mainLoop_getStats : mainLoop s getStatsRequest = getStats s := rfl

theorem mainLoop_qpCreate : mainLoop s qpCreateRequest = qpCreate s := rfl

/-- The NUL that is sent along ends the string. -/
theorem mainLoop_qpDestroy : mainLoop s qpDestroyRequest = qpDestroy s := rfl

theorem mainLoop_mrCreate (length : UInt64) :
    mainLoop s (mrCreateRequest length) = mrCreate s length := by
  have hword : LengthWord (text "MR_CREATE ") := by constructor <;> decide
  rw [mrCreateRequest, mainLoop_lengthRequest hword, if_pos (isPrefixOf_append _ _)]
  exact withLength_decimal ..

theorem mainLoop_checkMemory (length : UInt64) :
    mainLoop s (checkMemoryRequest length) = checkMemory s length := by
  have hword : LengthWord (text "CHECK_MEMORY ") := by constructor <;> decide
  have hother : (text "MR_CREATE ").isPrefixOf (text "CHECK_MEMORY " ++ decimal length.toNat) =
      false := rfl
  rw [checkMemoryRequest, mainLoop_lengthRequest hword, hother, if_neg Bool.false_ne_true,
    if_pos (isPrefixOf_append _ _)]
  exact withLength_decimal ..

theorem mainLoop_mrDestroy (length : UInt64) :
    mainLoop s (mrDestroyRequest length) = mrDestroy s length := by
  have hword : LengthWord (text "MR_DESTROY ") := by constructor <;> decide
  have hcreate : (text "MR_CREATE ").isPrefixOf (text "MR_DESTROY " ++ decimal length.toNat) =
      false := rfl
  have hcheck : (text "CHECK_MEMORY ").isPrefixOf (text "MR_DESTROY " ++ decimal length.toNat) =
      false := rfl
  rw [mrDestroyRequest, mainLoop_lengthRequest hword, hcreate, hcheck,
    if_neg Bool.false_ne_true, if_neg Bool.false_ne_true, if_pos (isPrefixOf_append _ _)]
  exact withLength_decimal ..

/-! ## Responses of the events -/

theorem saysSuccess_qpCreate :
    saysSuccess (qpCreate s).1 = true ↔ s.globalQpCount < s.maxGlobalQp := by
  unfold qpCreate
  by_cases hfull : s.maxGlobalQp ≤ s.globalQpCount
  · have hrefused : saysSuccess (text "Error: QP limit reached\n") = false := by decide
    rw [if_pos hfull, hrefused]
    exact iff_of_false Bool.false_ne_true (UInt32.not_lt.mpr hfull)
  · have hcreated : saysSuccess (text "Success: QP created\n") = true := by decide
    rw [if_neg hfull, hcreated]
    exact iff_of_true rfl (UInt32.not_le.mp hfull)

theorem saysSuccess_memoryLimit : saysSuccess (text "Error: Memory limit reached\n") = false := by
  decide

theorem saysSuccess_mrCreate (length : UInt64) :
    saysSuccess (mrCreate s length).1 = memoryAdmits s length := by
  have hcreated : saysSuccess (text "Success: MR created\n") = true := by decide
  unfold mrCreate
  cases memoryAdmits s length with
  | false => exact saysSuccess_memoryLimit
  | true => exact hcreated

theorem saysSuccess_checkMemory (length : UInt64) :
    saysSuccess (checkMemory s length).1 = memoryAdmits s length := by
  have hpassed : saysSuccess (text "Success: Memory check passed\n") = true := by decide
  unfold checkMemory
  cases memoryAdmits s length with
  | false => exact saysSuccess_memoryLimit
  | true => exact hpassed

theorem checkMemory_snd (length : UInt64) : (checkMemory s length).2 = s := by
  unfold checkMemory
  split <;> rfl

/-! ## The response with the statistics -/

/-- The lines that the client does not look for. -/
def restOfStats (s : CollectorServer) : Bytes :=
  text "Total MR: " ++ decimal s.globalMrCount.toNat ++ text "\nTotal Memory Used: " ++
    decimal s.globalMemoryUsed.toNat ++ text " bytes\nMax Memory: " ++
    decimal s.maxGlobalMemory.toNat ++ text " bytes\n"

/-- The response, in three parts. -/
def statsResponse (s : CollectorServer) : Bytes :=
  (text "Total QP: " ++ decimal s.globalQpCount.toNat ++ text "\n") ++
    (text "Max QP: " ++ decimal s.maxGlobalQp.toNat ++ (text "\n" ++ restOfStats s))

theorem length_statsResponse (s : CollectorServer) : (statsResponse s).length ≤ 511 := by
  have h32 : ∀ v : UInt32, (decimal v.toNat).length ≤ 10 := fun v =>
    length_decimal_le (by omega) (by have := v.toNat_lt; omega)
  have h64 : ∀ v : UInt64, (decimal v.toNat).length ≤ 20 := fun v =>
    length_decimal_le (by omega) (by have := v.toNat_lt; omega)
  have htexts : (text "Total QP: ").length + (text "\n").length + (text "Max QP: ").length +
      (text "\n").length + (text "Total MR: ").length + (text "\nTotal Memory Used: ").length +
      (text " bytes\nMax Memory: ").length + (text " bytes\n").length = 76 := by decide
  have hqp := h32 s.globalQpCount
  have hmax := h32 s.maxGlobalQp
  have hmr := h32 s.globalMrCount
  have hused := h64 s.globalMemoryUsed
  have hmemory := h64 s.maxGlobalMemory
  simp only [statsResponse, restOfStats, List.length_append]
  omega

theorem getStats_fst (s : CollectorServer) : (getStats s).1 = statsResponse s := by
  have hparts : text "Total QP: " ++ decimal s.globalQpCount.toNat ++ text "\nMax QP: " ++
      decimal s.maxGlobalQp.toNat ++ text "\nTotal MR: " ++ decimal s.globalMrCount.toNat ++
      text "\nTotal Memory Used: " ++ decimal s.globalMemoryUsed.toNat ++
      text " bytes\nMax Memory: " ++ decimal s.maxGlobalMemory.toNat ++ text " bytes\n" =
        statsResponse s := by
    have hmax : text "\nMax QP: " = text "\n" ++ text "Max QP: " := by decide
    have hmr : text "\nTotal MR: " = text "\n" ++ text "Total MR: " := by decide
    rw [hmax, hmr]
    simp only [statsResponse, restOfStats, List.append_assoc]
  have hlength := length_statsResponse s
  unfold getStats snprintf
  rw [hparts]
  exact List.take_of_length_le (by omega)

/-- No byte of the response is a NUL. -/
theorem noNul_statsResponse (s : CollectorServer) : (0 : UInt8) ∉ statsResponse s := by
  have hdecimal : ∀ n : ℕ, (0 : UInt8) ∉ decimal n := fun n => notMem_decimal (by decide)
  have htexts : (0 : UInt8) ∉ text "Total QP: " ∧ (0 : UInt8) ∉ text "\n" ∧
      (0 : UInt8) ∉ text "Max QP: " ∧ (0 : UInt8) ∉ text "Total MR: " ∧
      (0 : UInt8) ∉ text "\nTotal Memory Used: " ∧ (0 : UInt8) ∉ text " bytes\nMax Memory: " ∧
      (0 : UInt8) ∉ text " bytes\n" := by decide
  obtain ⟨h1, h2, h3, h4, h5, h6, h7⟩ := htexts
  simp only [statsResponse, restOfStats, List.mem_append, not_or]
  exact ⟨⟨⟨h1, hdecimal _⟩, h2⟩, ⟨h3, hdecimal _⟩, h2,
    ⟨⟨⟨⟨⟨⟨h4, hdecimal _⟩, h5⟩, hdecimal _⟩, h6⟩, hdecimal _⟩, h7⟩⟩

theorem received_statsResponse (s : CollectorServer) :
    received 1024 (statsResponse s) = statsResponse s := by
  have hlength := length_statsResponse s
  rw [received, List.take_of_length_le (by omega), terminated_of_notMem (noNul_statsResponse s)]

/-- A line of the response, wherever it is found: its number is read up to the newline. -/
theorem statsLine_of_found {word buffer rest : Bytes} {v : UInt32}
    (hfound : strstr word buffer = some (word ++ text " " ++ decimal v.toNat ++ (text "\n" ++ rest)))
    (hword : scanLiteral (word ++ text " ") (word ++ text " " ++ decimal v.toNat ++
      (text "\n" ++ rest)) = some (skipSpaces (decimal v.toNat ++ (text "\n" ++ rest)))) :
    statsLine word buffer = some (some v) := by
  have hnodigit : NoDigit (text "\n" ++ rest) := by
    intro c hc
    obtain rfl : 10 = c := Option.some.inj hc
    decide
  rw [statsLine, hfound, Option.map_some, hword, Option.bind_some, scanUnsigned_skipSpaces,
    scanUnsigned_decimal v hnodigit]

theorem statsLine_total (s : CollectorServer) :
    statsLine (text "Total QP:") (statsResponse s) = some (some s.globalQpCount) := by
  have hsplit : statsResponse s = text "Total QP:" ++ text " " ++ decimal s.globalQpCount.toNat ++
      (text "\n" ++ (text "Max QP: " ++ decimal s.maxGlobalQp.toNat ++
        (text "\n" ++ restOfStats s))) := by
    have hword : text "Total QP: " = text "Total QP:" ++ text " " := by decide
    rw [statsResponse, hword]
    simp only [List.append_assoc]
  apply statsLine_of_found
  · rw [hsplit]
    apply strstr_of_prefix
    simp only [List.append_assoc]
    exact List.prefix_append ..
  · rfl

/-- The line of the limit is the first that contains an `M`. -/
theorem statsLine_max (s : CollectorServer) :
    statsLine (text "Max QP:") (statsResponse s) = some (some s.maxGlobalQp) := by
  have hfront : (77 : UInt8) ∉ text "Total QP: " ++ decimal s.globalQpCount.toNat ++ text "\n" := by
    have htotal : (77 : UInt8) ∉ text "Total QP: " := by decide
    have hnewline : (77 : UInt8) ∉ text "\n" := by decide
    simp only [List.mem_append, not_or]
    exact ⟨⟨htotal, notMem_decimal (by decide)⟩, hnewline⟩
  have hword : text "Max QP:" = 77 :: text "ax QP:" := by decide
  have hline : text "Max QP: " ++ decimal s.maxGlobalQp.toNat ++ (text "\n" ++ restOfStats s) =
      text "Max QP:" ++ text " " ++ decimal s.maxGlobalQp.toNat ++ (text "\n" ++ restOfStats s) := by
    have hspace : text "Max QP: " = text "Max QP:" ++ text " " := by decide
    rw [hspace]
  apply statsLine_of_found
  · rw [statsResponse, hline]
    conv_lhs => rw [hword]
    rw [strstr_append hfront, ← hword]
    apply strstr_of_prefix
    simp only [List.append_assoc]
    exact List.prefix_append ..
  · rfl

/-! ## The calls of the client -/

/-- The server after an admitted creation of a QP. -/
def withQp (s : CollectorServer) : CollectorServer :=
  { s with globalQpCount := s.globalQpCount + 1 }

/-- The server after an admitted registration. -/
def withMr (s : CollectorServer) (length : UInt64) : CollectorServer :=
  { s with
    globalMrCount := s.globalMrCount + 1
    globalMemoryUsed := s.globalMemoryUsed + length }

/-- Requests reach the operation they are meant for, and the client learns the decision of
the server. -/
structure SameLanguage (s : CollectorServer) : Prop where
  getStats : mainLoop s getStatsRequest = Model.getStats s
  qpCreate : mainLoop s qpCreateRequest = Model.qpCreate s
  qpDestroy : mainLoop s qpDestroyRequest = Model.qpDestroy s
  mrCreate : ∀ length, mainLoop s (mrCreateRequest length) = Model.mrCreate s length
  mrDestroy : ∀ length, mainLoop s (mrDestroyRequest length) = Model.mrDestroy s length
  checkMemory : ∀ length, mainLoop s (checkMemoryRequest length) = Model.checkMemory s length
  sendQpCreate : collectorSendQpCreateEvent s =
    if s.globalQpCount < s.maxGlobalQp then (true, withQp s) else (false, s)
  sendQpDestroy : collectorSendQpDestroyEvent s = (Model.qpDestroy s).2
  sendMrCreate : ∀ length, collectorSendMrCreateEvent s length =
    if memoryAdmits s length = true then (true, withMr s length) else (false, s)
  sendMrDestroy : ∀ length, collectorSendMrDestroyEvent s length = (Model.mrDestroy s length).2
  memoryLimit : ∀ length, collectorCheckGlobalMemoryLimit s length = (!memoryAdmits s length, s)
  stats : ∀ c unset, getGlobalQpStats c s unset = (⟨s.globalQpCount, s.maxGlobalQp⟩, s)
  qpLimit : ∀ c unset,
    (collectorCheckGlobalQpLimit c s unset).1 = true ↔ s.maxGlobalQp ≤ s.globalQpCount

theorem collectorSendQpCreateEvent_eq (s : CollectorServer) :
    collectorSendQpCreateEvent s =
      if s.globalQpCount < s.maxGlobalQp then (true, withQp s) else (false, s) := by
  have hresponse := saysSuccess_qpCreate (s := s)
  unfold collectorSendQpCreateEvent
  rw [mainLoop_qpCreate]
  by_cases hroom : s.globalQpCount < s.maxGlobalQp
  · have hstate : (qpCreate s).2 = withQp s := by
      rw [qpCreate, if_neg (UInt32.not_le.mpr hroom)]
      rfl
    rw [if_pos hroom]
    exact Prod.ext (hresponse.mpr hroom) hstate
  · have hstate : (qpCreate s).2 = s := by
      rw [qpCreate, if_pos (UInt32.not_lt.mp hroom)]
    rw [if_neg hroom]
    exact Prod.ext (Bool.eq_false_iff.mpr fun h => hroom (hresponse.mp h)) hstate

theorem collectorSendMrCreateEvent_eq (s : CollectorServer) (length : UInt64) :
    collectorSendMrCreateEvent s length =
      if memoryAdmits s length = true then (true, withMr s length) else (false, s) := by
  have hresponse := saysSuccess_mrCreate (s := s) length
  unfold collectorSendMrCreateEvent
  rw [mainLoop_mrCreate]
  cases hadmits : memoryAdmits s length with
  | true =>
    rw [hadmits] at hresponse
    have hstate : (mrCreate s length).2 = withMr s length := by
      rw [mrCreate, hadmits]
      rfl
    exact Prod.ext hresponse hstate
  | false =>
    rw [hadmits] at hresponse
    have hstate : (mrCreate s length).2 = s := by
      rw [mrCreate, hadmits]
      rfl
    exact Prod.ext hresponse hstate

theorem collectorCheckGlobalMemoryLimit_eq (s : CollectorServer) (length : UInt64) :
    collectorCheckGlobalMemoryLimit s length = (!memoryAdmits s length, s) := by
  unfold collectorCheckGlobalMemoryLimit
  rw [mainLoop_checkMemory]
  simp only [saysSuccess_checkMemory, checkMemory_snd]

/-- Both numbers are read as the server holds them; a limit of 0 would be ignored. -/
theorem getGlobalQpStats_eq {s : CollectorServer} (hmax : 0 < s.maxGlobalQp) (c : CollectorClient)
    (unset : UInt32) :
    getGlobalQpStats c s unset = (⟨s.globalQpCount, s.maxGlobalQp⟩, s) := by
  have hstate : (getStats s).2 = s := rfl
  unfold getGlobalQpStats
  rw [mainLoop_getStats]
  simp only [getStats_fst, received_statsResponse, statsLine_total, statsLine_max, hstate,
    Option.getD_some, hmax, if_true]

theorem collectorCheckGlobalQpLimit_iff {s : CollectorServer} (hmax : 0 < s.maxGlobalQp)
    (c : CollectorClient) (unset : UInt32) :
    (collectorCheckGlobalQpLimit c s unset).1 = true ↔ s.maxGlobalQp ≤ s.globalQpCount := by
  have hpos : 0 < s.maxGlobalQp.toNat := hmax
  have hne : s.maxGlobalQp ≠ 0 := by
    intro h0
    rw [h0] at hpos
    exact absurd hpos (by decide)
  unfold collectorCheckGlobalQpLimit
  simp only [getGlobalQpStats_eq hmax, hne, if_false]
  by_cases hzero : s.globalQpCount = 0
  · have hnot : ¬ s.maxGlobalQp ≤ s.globalQpCount := by
      rw [hzero, UInt32.le_iff_toNat_le]
      simpa using hpos.ne'
    rw [if_pos ⟨hzero, hmax⟩]
    exact iff_of_false Bool.false_ne_true hnot
  · rw [if_neg fun h => hzero h.1]
    by_cases hroom : s.globalQpCount < s.maxGlobalQp
    · rw [if_pos hroom]
      exact iff_of_false Bool.false_ne_true (UInt32.not_le.mpr hroom)
    · rw [if_neg hroom]
      exact iff_of_true rfl (UInt32.not_lt.mp hroom)

/-- Client and server speak the same language in every state with a limit. -/
theorem collector_sameLanguage {s : CollectorServer} (hmax : 0 < s.maxGlobalQp) :
    SameLanguage s where
  getStats := mainLoop_getStats
  qpCreate := mainLoop_qpCreate
  qpDestroy := mainLoop_qpDestroy
  mrCreate := mainLoop_mrCreate
  mrDestroy := mainLoop_mrDestroy
  checkMemory := mainLoop_checkMemory
  sendQpCreate := collectorSendQpCreateEvent_eq s
  sendQpDestroy := by rw [collectorSendQpDestroyEvent, mainLoop_qpDestroy]
  sendMrCreate := collectorSendMrCreateEvent_eq s
  sendMrDestroy := by
    intro length
    rw [collectorSendMrDestroyEvent, mainLoop_mrDestroy]
  memoryLimit := collectorCheckGlobalMemoryLimit_eq s
  stats := getGlobalQpStats_eq hmax
  qpLimit := collectorCheckGlobalQpLimit_iff hmax

theorem collector_sameLanguage_init : SameLanguage .init := collector_sameLanguage (by decide)

end RdmaIntercept.Analysis
