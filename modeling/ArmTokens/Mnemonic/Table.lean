/-!
# The list of mnemonics and directives

Every entry is in upper case, and the list is in strictly increasing order, so
that it can be searched by halving.
-/

set_option autoImplicit false
set_option maxRecDepth 4096

namespace ArmTokens.Mnemonic

def table : Array String := #[
  "ADC", "ADCCC", "ADCCS", "ADCEQ", "ADCGE", "ADCGT", "ADCHI", "ADCHS", "ADCLE", "ADCLO",
  "ADCLS", "ADCLT", "ADCMI", "ADCNE", "ADCPL", "ADCS", "ADCSCC", "ADCSCS", "ADCSEQ", "ADCSGE",
  "ADCSGT", "ADCSHI", "ADCSHS", "ADCSLE", "ADCSLO", "ADCSLS", "ADCSLT", "ADCSMI", "ADCSNE",
  "ADCSPL", "ADCSVC", "ADCSVS", "ADCVC", "ADCVS", "ADD", "ADDCC", "ADDCS", "ADDEQ", "ADDGE",
  "ADDGT", "ADDHI", "ADDHS", "ADDLE", "ADDLO", "ADDLS", "ADDLT", "ADDMI", "ADDNE", "ADDPL",
  "ADDS", "ADDSCC", "ADDSCS", "ADDSEQ", "ADDSGE", "ADDSGT", "ADDSHI", "ADDSHS", "ADDSLE",
  "ADDSLO", "ADDSLS", "ADDSLT", "ADDSMI", "ADDSNE", "ADDSPL", "ADDSVC", "ADDSVS", "ADDVC",
  "ADDVS", "ADR", "ADRCC", "ADRCS", "ADREQ", "ADRGE", "ADRGT", "ADRHI", "ADRHS", "ADRLE",
  "ADRLO", "ADRLS", "ADRLT", "ADRMI", "ADRNE", "ADRPL", "ADRVC", "ADRVS", "AND", "ANDCC",
  "ANDCS", "ANDEQ", "ANDGE", "ANDGT", "ANDHI", "ANDHS", "ANDLE", "ANDLO", "ANDLS", "ANDLT",
  "ANDMI", "ANDNE", "ANDPL", "ANDS", "ANDSCC", "ANDSCS", "ANDSEQ", "ANDSGE", "ANDSGT", "ANDSHI",
  "ANDSHS", "ANDSLE", "ANDSLO", "ANDSLS", "ANDSLT", "ANDSMI", "ANDSNE", "ANDSPL", "ANDSVC",
  "ANDSVS", "ANDVC", "ANDVS", "ASR", "ASRCC", "ASRCS", "ASREQ", "ASRGE", "ASRGT", "ASRHI",
  "ASRHS", "ASRLE", "ASRLO", "ASRLS", "ASRLT", "ASRMI", "ASRNE", "ASRPL", "ASRS", "ASRSCC",
  "ASRSCS", "ASRSEQ", "ASRSGE", "ASRSGT", "ASRSHI", "ASRSHS", "ASRSLE", "ASRSLO", "ASRSLS",
  "ASRSLT", "ASRSMI", "ASRSNE", "ASRSPL", "ASRSVC", "ASRSVS", "ASRVC", "ASRVS", "B", "BCC",
  "BCS", "BEQ", "BGE", "BGT", "BHI", "BHS", "BIC", "BICCC", "BICCS", "BICEQ", "BICGE", "BICGT",
  "BICHI", "BICHS", "BICLE", "BICLO", "BICLS", "BICLT", "BICMI", "BICNE", "BICPL", "BICS",
  "BICSCC", "BICSCS", "BICSEQ", "BICSGE", "BICSGT", "BICSHI", "BICSHS", "BICSLE", "BICSLO",
  "BICSLS", "BICSLT", "BICSMI", "BICSNE", "BICSPL", "BICSVC", "BICSVS", "BICVC", "BICVS", "BL",
  "BLCC", "BLCS", "BLE", "BLEQ", "BLGE", "BLGT", "BLHI", "BLHS", "BLLE", "BLLO", "BLLS", "BLLT",
  "BLMI", "BLNE", "BLO", "BLPL", "BLS", "BLT", "BLVC", "BLVS", "BMI", "BNE", "BPL", "BVC", "BVS",
  "CMN", "CMNCC", "CMNCS", "CMNEQ", "CMNGE", "CMNGT", "CMNHI", "CMNHS", "CMNLE", "CMNLO",
  "CMNLS", "CMNLT", "CMNMI", "CMNNE", "CMNPL", "CMNS", "CMNSCC", "CMNSCS", "CMNSEQ", "CMNSGE",
  "CMNSGT", "CMNSHI", "CMNSHS", "CMNSLE", "CMNSLO", "CMNSLS", "CMNSLT", "CMNSMI", "CMNSNE",
  "CMNSPL", "CMNSVC", "CMNSVS", "CMNVC", "CMNVS", "CMP", "CMPCC", "CMPCS", "CMPEQ", "CMPGE",
  "CMPGT", "CMPHI", "CMPHS", "CMPLE", "CMPLO", "CMPLS", "CMPLT", "CMPMI", "CMPNE", "CMPPL",
  "CMPS", "CMPSCC", "CMPSCS", "CMPSEQ", "CMPSGE", "CMPSGT", "CMPSHI", "CMPSHS", "CMPSLE",
  "CMPSLO", "CMPSLS", "CMPSLT", "CMPSMI", "CMPSNE", "CMPSPL", "CMPSVC", "CMPSVS", "CMPVC",
  "CMPVS", "DCB", "DCD", "END", "ENDCC", "ENDCS", "ENDEQ", "ENDGE", "ENDGT", "ENDHI", "ENDHS",
  "ENDLE", "ENDLO", "ENDLS", "ENDLT", "ENDMI", "ENDNE", "ENDPL", "ENDVC", "ENDVS", "EOR",
  "EORCC", "EORCS", "EOREQ", "EORGE", "EORGT", "EORHI", "EORHS", "EORLE", "EORLO", "EORLS",
  "EORLT", "EORMI", "EORNE", "EORPL", "EORS", "EORSCC", "EORSCS", "EORSEQ", "EORSGE", "EORSGT",
  "EORSHI", "EORSHS", "EORSLE", "EORSLO", "EORSLS", "EORSLT", "EORSMI", "EORSNE", "EORSPL",
  "EORSVC", "EORSVS", "EORVC", "EORVS", "EQU", "FILL", "LDM", "LDMB", "LDMBCC", "LDMBCS",
  "LDMBEQ", "LDMBGE", "LDMBGT", "LDMBHI", "LDMBHS", "LDMBLE", "LDMBLO", "LDMBLS", "LDMBLT",
  "LDMBMI", "LDMBNE", "LDMBPL", "LDMBVC", "LDMBVS", "LDMCC", "LDMCS", "LDMDA", "LDMDACC",
  "LDMDACS", "LDMDAEQ", "LDMDAGE", "LDMDAGT", "LDMDAHI", "LDMDAHS", "LDMDALE", "LDMDALO",
  "LDMDALS", "LDMDALT", "LDMDAMI", "LDMDANE", "LDMDAPL", "LDMDAVC", "LDMDAVS", "LDMDB",
  "LDMDBCC", "LDMDBCS", "LDMDBEQ", "LDMDBGE", "LDMDBGT", "LDMDBHI", "LDMDBHS", "LDMDBLE",
  "LDMDBLO", "LDMDBLS", "LDMDBLT", "LDMDBMI", "LDMDBNE", "LDMDBPL", "LDMDBVC", "LDMDBVS",
  "LDMEA", "LDMEACC", "LDMEACS", "LDMEAEQ", "LDMEAGE", "LDMEAGT", "LDMEAHI", "LDMEAHS",
  "LDMEALE", "LDMEALO", "LDMEALS", "LDMEALT", "LDMEAMI", "LDMEANE", "LDMEAPL", "LDMEAVC",
  "LDMEAVS", "LDMED", "LDMEDCC", "LDMEDCS", "LDMEDEQ", "LDMEDGE", "LDMEDGT", "LDMEDHI",
  "LDMEDHS", "LDMEDLE", "LDMEDLO", "LDMEDLS", "LDMEDLT", "LDMEDMI", "LDMEDNE", "LDMEDPL",
  "LDMEDVC", "LDMEDVS", "LDMEQ", "LDMFA", "LDMFACC", "LDMFACS", "LDMFAEQ", "LDMFAGE", "LDMFAGT",
  "LDMFAHI", "LDMFAHS", "LDMFALE", "LDMFALO", "LDMFALS", "LDMFALT", "LDMFAMI", "LDMFANE",
  "LDMFAPL", "LDMFAVC", "LDMFAVS", "LDMFD", "LDMFDCC", "LDMFDCS", "LDMFDEQ", "LDMFDGE",
  "LDMFDGT", "LDMFDHI", "LDMFDHS", "LDMFDLE", "LDMFDLO", "LDMFDLS", "LDMFDLT", "LDMFDMI",
  "LDMFDNE", "LDMFDPL", "LDMFDVC", "LDMFDVS", "LDMGE", "LDMGT", "LDMHI", "LDMHS", "LDMIA",
  "LDMIACC", "LDMIACS", "LDMIAEQ", "LDMIAGE", "LDMIAGT", "LDMIAHI", "LDMIAHS", "LDMIALE",
  "LDMIALO", "LDMIALS", "LDMIALT", "LDMIAMI", "LDMIANE", "LDMIAPL", "LDMIAVC", "LDMIAVS",
  "LDMIB", "LDMIBCC", "LDMIBCS", "LDMIBEQ", "LDMIBGE", "LDMIBGT", "LDMIBHI", "LDMIBHS",
  "LDMIBLE", "LDMIBLO", "LDMIBLS", "LDMIBLT", "LDMIBMI", "LDMIBNE", "LDMIBPL", "LDMIBVC",
  "LDMIBVS", "LDMLE", "LDMLO", "LDMLS", "LDMLT", "LDMMI", "LDMNE", "LDMPL", "LDMVC", "LDMVS",
  "LDR", "LDRB", "LDRBCC", "LDRBCS", "LDRBEQ", "LDRBGE", "LDRBGT", "LDRBHI", "LDRBHS", "LDRBLE",
  "LDRBLO", "LDRBLS", "LDRBLT", "LDRBMI", "LDRBNE", "LDRBPL", "LDRBVC", "LDRBVS", "LDRCC",
  "LDRCS", "LDRDA", "LDRDACC", "LDRDACS", "LDRDAEQ", "LDRDAGE", "LDRDAGT", "LDRDAHI", "LDRDAHS",
  "LDRDALE", "LDRDALO", "LDRDALS", "LDRDALT", "LDRDAMI", "LDRDANE", "LDRDAPL", "LDRDAVC",
  "LDRDAVS", "LDRDB", "LDRDBCC", "LDRDBCS", "LDRDBEQ", "LDRDBGE", "LDRDBGT", "LDRDBHI",
  "LDRDBHS", "LDRDBLE", "LDRDBLO", "LDRDBLS", "LDRDBLT", "LDRDBMI", "LDRDBNE", "LDRDBPL",
  "LDRDBVC", "LDRDBVS", "LDREA", "LDREACC", "LDREACS", "LDREAEQ", "LDREAGE", "LDREAGT",
  "LDREAHI", "LDREAHS", "LDREALE", "LDREALO", "LDREALS", "LDREALT", "LDREAMI", "LDREANE",
  "LDREAPL", "LDREAVC", "LDREAVS", "LDRED", "LDREDCC", "LDREDCS", "LDREDEQ", "LDREDGE",
  "LDREDGT", "LDREDHI", "LDREDHS", "LDREDLE", "LDREDLO", "LDREDLS", "LDREDLT", "LDREDMI",
  "LDREDNE", "LDREDPL", "LDREDVC", "LDREDVS", "LDREQ", "LDRFA", "LDRFACC", "LDRFACS", "LDRFAEQ",
  "LDRFAGE", "LDRFAGT", "LDRFAHI", "LDRFAHS", "LDRFALE", "LDRFALO", "LDRFALS", "LDRFALT",
  "LDRFAMI", "LDRFANE", "LDRFAPL", "LDRFAVC", "LDRFAVS", "LDRFD", "LDRFDCC", "LDRFDCS",
  "LDRFDEQ", "LDRFDGE", "LDRFDGT", "LDRFDHI", "LDRFDHS", "LDRFDLE", "LDRFDLO", "LDRFDLS",
  "LDRFDLT", "LDRFDMI", "LDRFDNE", "LDRFDPL", "LDRFDVC", "LDRFDVS", "LDRGE", "LDRGT", "LDRHI",
  "LDRHS", "LDRIA", "LDRIACC", "LDRIACS", "LDRIAEQ", "LDRIAGE", "LDRIAGT", "LDRIAHI", "LDRIAHS",
  "LDRIALE", "LDRIALO", "LDRIALS", "LDRIALT", "LDRIAMI", "LDRIANE", "LDRIAPL", "LDRIAVC",
  "LDRIAVS", "LDRIB", "LDRIBCC", "LDRIBCS", "LDRIBEQ", "LDRIBGE", "LDRIBGT", "LDRIBHI",
  "LDRIBHS", "LDRIBLE", "LDRIBLO", "LDRIBLS", "LDRIBLT", "LDRIBMI", "LDRIBNE", "LDRIBPL",
  "LDRIBVC", "LDRIBVS", "LDRLE", "LDRLO", "LDRLS", "LDRLT", "LDRMI", "LDRNE", "LDRPL", "LDRVC",
  "LDRVS", "LSL", "LSLCC", "LSLCS", "LSLEQ", "LSLGE", "LSLGT", "LSLHI", "LSLHS", "LSLLE",
  "LSLLO", "LSLLS", "LSLLT", "LSLMI", "LSLNE", "LSLPL", "LSLS", "LSLSCC", "LSLSCS", "LSLSEQ",
  "LSLSGE", "LSLSGT", "LSLSHI", "LSLSHS", "LSLSLE", "LSLSLO", "LSLSLS", "LSLSLT", "LSLSMI",
  "LSLSNE", "LSLSPL", "LSLSVC", "LSLSVS", "LSLVC", "LSLVS", "LSR", "LSRCC", "LSRCS", "LSREQ",
  "LSRGE", "LSRGT", "LSRHI", "LSRHS", "LSRLE", "LSRLO", "LSRLS", "LSRLT", "LSRMI", "LSRNE",
  "LSRPL", "LSRS", "LSRSCC", "LSRSCS", "LSRSEQ", "LSRSGE", "LSRSGT", "LSRSHI", "LSRSHS",
  "LSRSLE", "LSRSLO", "LSRSLS", "LSRSLT", "LSRSMI", "LSRSNE", "LSRSPL", "LSRSVC", "LSRSVS",
  "LSRVC", "LSRVS", "MOV", "MOVCC", "MOVCS", "MOVEQ", "MOVGE", "MOVGT", "MOVHI", "MOVHS",
  "MOVLE", "MOVLO", "MOVLS", "MOVLT", "MOVMI", "MOVNE", "MOVPL", "MOVS", "MOVSCC", "MOVSCS",
  "MOVSEQ", "MOVSGE", "MOVSGT", "MOVSHI", "MOVSHS", "MOVSLE", "MOVSLO", "MOVSLS", "MOVSLT",
  "MOVSMI", "MOVSNE", "MOVSPL", "MOVSVC", "MOVSVS", "MOVVC", "MOVVS", "MVN", "MVNCC", "MVNCS",
  "MVNEQ", "MVNGE", "MVNGT", "MVNHI", "MVNHS", "MVNLE", "MVNLO", "MVNLS", "MVNLT", "MVNMI",
  "MVNNE", "MVNPL", "MVNS", "MVNSCC", "MVNSCS", "MVNSEQ", "MVNSGE", "MVNSGT", "MVNSHI", "MVNSHS",
  "MVNSLE", "MVNSLO", "MVNSLS", "MVNSLT", "MVNSMI", "MVNSNE", "MVNSPL", "MVNSVC", "MVNSVS",
  "MVNVC", "MVNVS", "ORR", "ORRCC", "ORRCS", "ORREQ", "ORRGE", "ORRGT", "ORRHI", "ORRHS",
  "ORRLE", "ORRLO", "ORRLS", "ORRLT", "ORRMI", "ORRNE", "ORRPL", "ORRS", "ORRSCC", "ORRSCS",
  "ORRSEQ", "ORRSGE", "ORRSGT", "ORRSHI", "ORRSHS", "ORRSLE", "ORRSLO", "ORRSLS", "ORRSLT",
  "ORRSMI", "ORRSNE", "ORRSPL", "ORRSVC", "ORRSVS", "ORRVC", "ORRVS", "ROR", "RORCC", "RORCS",
  "ROREQ", "RORGE", "RORGT", "RORHI", "RORHS", "RORLE", "RORLO", "RORLS", "RORLT", "RORMI",
  "RORNE", "RORPL", "RORS", "RORSCC", "RORSCS", "RORSEQ", "RORSGE", "RORSGT", "RORSHI", "RORSHS",
  "RORSLE", "RORSLO", "RORSLS", "RORSLT", "RORSMI", "RORSNE", "RORSPL", "RORSVC", "RORSVS",
  "RORVC", "RORVS", "RRX", "RRXCC", "RRXCS", "RRXEQ", "RRXGE", "RRXGT", "RRXHI", "RRXHS",
  "RRXLE", "RRXLO", "RRXLS", "RRXLT", "RRXMI", "RRXNE", "RRXPL", "RRXS", "RRXSCC", "RRXSCS",
  "RRXSEQ", "RRXSGE", "RRXSGT", "RRXSHI", "RRXSHS", "RRXSLE", "RRXSLO", "RRXSLS", "RRXSLT",
  "RRXSMI", "RRXSNE", "RRXSPL", "RRXSVC", "RRXSVS", "RRXVC", "RRXVS", "RSB", "RSBCC", "RSBCS",
  "RSBEQ", "RSBGE", "RSBGT", "RSBHI", "RSBHS", "RSBLE", "RSBLO", "RSBLS", "RSBLT", "RSBMI",
  "RSBNE", "RSBPL", "RSBS", "RSBSCC", "RSBSCS", "RSBSEQ", "RSBSGE", "RSBSGT", "RSBSHI", "RSBSHS",
  "RSBSLE", "RSBSLO", "RSBSLS", "RSBSLT", "RSBSMI", "RSBSNE", "RSBSPL", "RSBSVC", "RSBSVS",
  "RSBVC", "RSBVS", "RSC", "RSCCC", "RSCCS", "RSCEQ", "RSCGE", "RSCGT", "RSCHI", "RSCHS",
  "RSCLE", "RSCLO", "RSCLS", "RSCLT", "RSCMI", "RSCNE", "RSCPL", "RSCS", "RSCSCC", "RSCSCS",
  "RSCSEQ", "RSCSGE", "RSCSGT", "RSCSHI", "RSCSHS", "RSCSLE", "RSCSLO", "RSCSLS", "RSCSLT",
  "RSCSMI", "RSCSNE", "RSCSPL", "RSCSVC", "RSCSVS", "RSCVC", "RSCVS", "SBC", "SBCCC", "SBCCS",
  "SBCEQ", "SBCGE", "SBCGT", "SBCHI", "SBCHS", "SBCLE", "SBCLO", "SBCLS", "SBCLT", "SBCMI",
  "SBCNE", "SBCPL", "SBCS", "SBCSCC", "SBCSCS", "SBCSEQ", "SBCSGE", "SBCSGT", "SBCSHI", "SBCSHS",
  "SBCSLE", "SBCSLO", "SBCSLS", "SBCSLT", "SBCSMI", "SBCSNE", "SBCSPL", "SBCSVC", "SBCSVS",
  "SBCVC", "SBCVS", "SPACE", "STM", "STMB", "STMBCC", "STMBCS", "STMBEQ", "STMBGE", "STMBGT",
  "STMBHI", "STMBHS", "STMBLE", "STMBLO", "STMBLS", "STMBLT", "STMBMI", "STMBNE", "STMBPL",
  "STMBVC", "STMBVS", "STMCC", "STMCS", "STMDA", "STMDACC", "STMDACS", "STMDAEQ", "STMDAGE",
  "STMDAGT", "STMDAHI", "STMDAHS", "STMDALE", "STMDALO", "STMDALS", "STMDALT", "STMDAMI",
  "STMDANE", "STMDAPL", "STMDAVC", "STMDAVS", "STMDB", "STMDBCC", "STMDBCS", "STMDBEQ",
  "STMDBGE", "STMDBGT", "STMDBHI", "STMDBHS", "STMDBLE", "STMDBLO", "STMDBLS", "STMDBLT",
  "STMDBMI", "STMDBNE", "STMDBPL", "STMDBVC", "STMDBVS", "STMEA", "STMEACC", "STMEACS",
  "STMEAEQ", "STMEAGE", "STMEAGT", "STMEAHI", "STMEAHS", "STMEALE", "STMEALO", "STMEALS",
  "STMEALT", "STMEAMI", "STMEANE", "STMEAPL", "STMEAVC", "STMEAVS", "STMED", "STMEDCC",
  "STMEDCS", "STMEDEQ", "STMEDGE", "STMEDGT", "STMEDHI", "STMEDHS", "STMEDLE", "STMEDLO",
  "STMEDLS", "STMEDLT", "STMEDMI", "STMEDNE", "STMEDPL", "STMEDVC", "STMEDVS", "STMEQ", "STMFA",
  "STMFACC", "STMFACS", "STMFAEQ", "STMFAGE", "STMFAGT", "STMFAHI", "STMFAHS", "STMFALE",
  "STMFALO", "STMFALS", "STMFALT", "STMFAMI", "STMFANE", "STMFAPL", "STMFAVC", "STMFAVS",
  "STMFD", "STMFDCC", "STMFDCS", "STMFDEQ", "STMFDGE", "STMFDGT", "STMFDHI", "STMFDHS",
  "STMFDLE", "STMFDLO", "STMFDLS", "STMFDLT", "STMFDMI", "STMFDNE", "STMFDPL", "STMFDVC",
  "STMFDVS", "STMGE", "STMGT", "STMHI", "STMHS", "STMIA", "STMIACC", "STMIACS", "STMIAEQ",
  "STMIAGE", "STMIAGT", "STMIAHI", "STMIAHS", "STMIALE", "STMIALO", "STMIALS", "STMIALT",
  "STMIAMI", "STMIANE", "STMIAPL", "STMIAVC", "STMIAVS", "STMIB", "STMIBCC", "STMIBCS",
  "STMIBEQ", "STMIBGE", "STMIBGT", "STMIBHI", "STMIBHS", "STMIBLE", "STMIBLO", "STMIBLS",
  "STMIBLT", "STMIBMI", "STMIBNE", "STMIBPL", "STMIBVC", "STMIBVS", "STMLE", "STMLO", "STMLS",
  "STMLT", "STMMI", "STMNE", "STMPL", "STMVC", "STMVS", "STR", "STRB", "STRBCC", "STRBCS",
  "STRBEQ", "STRBGE", "STRBGT", "STRBHI", "STRBHS", "STRBLE", "STRBLO", "STRBLS", "STRBLT",
  "STRBMI", "STRBNE", "STRBPL", "STRBVC", "STRBVS", "STRCC", "STRCS", "STRDA", "STRDACC",
  "STRDACS", "STRDAEQ", "STRDAGE", "STRDAGT", "STRDAHI", "STRDAHS", "STRDALE", "STRDALO",
  "STRDALS", "STRDALT", "STRDAMI", "STRDANE", "STRDAPL", "STRDAVC", "STRDAVS", "STRDB",
  "STRDBCC", "STRDBCS", "STRDBEQ", "STRDBGE", "STRDBGT", "STRDBHI", "STRDBHS", "STRDBLE",
  "STRDBLO", "STRDBLS", "STRDBLT", "STRDBMI", "STRDBNE", "STRDBPL", "STRDBVC", "STRDBVS",
  "STREA", "STREACC", "STREACS", "STREAEQ", "STREAGE", "STREAGT", "STREAHI", "STREAHS",
  "STREALE", "STREALO", "STREALS", "STREALT", "STREAMI", "STREANE", "STREAPL", "STREAVC",
  "STREAVS", "STRED", "STREDCC", "STREDCS", "STREDEQ", "STREDGE", "STREDGT", "STREDHI",
  "STREDHS", "STREDLE", "STREDLO", "STREDLS", "STREDLT", "STREDMI", "STREDNE", "STREDPL",
  "STREDVC", "STREDVS", "STREQ", "STRFA", "STRFACC", "STRFACS", "STRFAEQ", "STRFAGE", "STRFAGT",
  "STRFAHI", "STRFAHS", "STRFALE", "STRFALO", "STRFALS", "STRFALT", "STRFAMI", "STRFANE",
  "STRFAPL", "STRFAVC", "STRFAVS", "STRFD", "STRFDCC", "STRFDCS", "STRFDEQ", "STRFDGE",
  "STRFDGT", "STRFDHI", "STRFDHS", "STRFDLE", "STRFDLO", "STRFDLS", "STRFDLT", "STRFDMI",
  "STRFDNE", "STRFDPL", "STRFDVC", "STRFDVS", "STRGE", "STRGT", "STRHI", "STRHS", "STRIA",
  "STRIACC", "STRIACS", "STRIAEQ", "STRIAGE", "STRIAGT", "STRIAHI", "STRIAHS", "STRIALE",
  "STRIALO", "STRIALS", "STRIALT", "STRIAMI", "STRIANE", "STRIAPL", "STRIAVC", "STRIAVS",
  "STRIB", "STRIBCC", "STRIBCS", "STRIBEQ", "STRIBGE", "STRIBGT", "STRIBHI", "STRIBHS",
  "STRIBLE", "STRIBLO", "STRIBLS", "STRIBLT", "STRIBMI", "STRIBNE", "STRIBPL", "STRIBVC",
  "STRIBVS", "STRLE", "STRLO", "STRLS", "STRLT", "STRMI", "STRNE", "STRPL", "STRVC", "STRVS",
  "SUB", "SUBCC", "SUBCS", "SUBEQ", "SUBGE", "SUBGT", "SUBHI", "SUBHS", "SUBLE", "SUBLO",
  "SUBLS", "SUBLT", "SUBMI", "SUBNE", "SUBPL", "SUBS", "SUBSCC", "SUBSCS", "SUBSEQ", "SUBSGE",
  "SUBSGT", "SUBSHI", "SUBSHS", "SUBSLE", "SUBSLO", "SUBSLS", "SUBSLT", "SUBSMI", "SUBSNE",
  "SUBSPL", "SUBSVC", "SUBSVS", "SUBVC", "SUBVS", "TEQ", "TEQCC", "TEQCS", "TEQEQ", "TEQGE",
  "TEQGT", "TEQHI", "TEQHS", "TEQLE", "TEQLO", "TEQLS", "TEQLT", "TEQMI", "TEQNE", "TEQPL",
  "TEQS", "TEQSCC", "TEQSCS", "TEQSEQ", "TEQSGE", "TEQSGT", "TEQSHI", "TEQSHS", "TEQSLE",
  "TEQSLO", "TEQSLS", "TEQSLT", "TEQSMI", "TEQSNE", "TEQSPL", "TEQSVC", "TEQSVS", "TEQVC",
  "TEQVS", "TST", "TSTCC", "TSTCS", "TSTEQ", "TSTGE", "TSTGT", "TSTHI", "TSTHS", "TSTLE",
  "TSTLO", "TSTLS", "TSTLT", "TSTMI", "TSTNE", "TSTPL", "TSTS", "TSTSCC", "TSTSCS", "TSTSEQ",
  "TSTSGE", "TSTSGT", "TSTSHI", "TSTSHS", "TSTSLE", "TSTSLO", "TSTSLS", "TSTSLT", "TSTSMI",
  "TSTSNE", "TSTSPL", "TSTSVC", "TSTSVS", "TSTVC", "TSTVS"]

end ArmTokens.Mnemonic
