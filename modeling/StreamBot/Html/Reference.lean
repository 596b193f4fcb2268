import StreamBot.Text.Search

/-! # Named characters

The names of characters in HTML.  Some of them also count without a semicolon behind them.
-/

namespace StreamBot.Html

/-- The names, with commas between those of one character.  They are in the order of the characters; where one or
more of them have no name, the code point of the next is given in hexadecimal, with that of a character that is
added to it.  An exclamation mark stands behind those that also count without a semicolon, and other signs stand for parts
that many names have. -/
private def entityText : String := "
  =9 Tab NewLine =21 excl QUOT!,quot! num dollar percnt AMP!,amp! apos lpar rpar ast,midast plus comma =2e period
  sol =3a colon semi LT!,lt! ^uals GT!,gt! quest commat =5b lbrack,lsqb bsol rbrack,rsqb Hat UnderBar,lowbar
  DiacriticalGrave,grave =7b lbrace,lcub VerticalLine,verbar,vert rbrace,rcub =a0 NonBreakingSpace,nbsp! iexcl!
  cent! pound! curren! yen! brvbar! sect! Dot,?Dot,die,uml! COPY!,copy! ordf! laquo! not! shy! REG!,/ledR,reg!
  macr!,strns deg! PlusMinus,plusmn!,pm sup2! sup3! DiacriticalAcute,;! micro! para! CenterDot,centerdot,middot!
  Cedilla,cedil! sup1! ordm! raquo! frac14! frac12!,half frac34! iquest! Agrave! A;! A/! Atilde! Auml! Aring!,angst
  AElig! Ccedil! Egrave! E;! E/! Euml! Igrave! I;! I/! Iuml! ETH! Ntilde! Ograve! O;! O/! Otilde! Ouml! times!
  Oslash! Ugrave! U;! U/! Uuml! Y;! THORN! szlig! agrave! a;! a/! atilde! auml! aring! aelig! ccedil! egrave! e;!
  e/! euml! igrave! i;! i/! iuml! eth! ntilde! ograve! o;! o/! otilde! ouml! div,divide! oslash! ugrave! u;! u/!
  uuml! y;! thorn! yuml! Amacr amacr Abreve abreve Aogon aogon C; c; C/ c/ Cdot cdot C~ c~ D~ d~ Dstrok dstrok Emacr
  emacr =116 Edot edot Eogon eogon E~ e~ G/ g/ Gbreve gbreve Gdot gdot Gcedil =124 H/ h/ Hstrok hstrok Itilde itilde
  Imacr imacr =12e Iogon iogon Idot imath,inodot IJlig ijlig J/ j/ Kcedil kcedil kgreen L; l; Lcedil lcedil L~ l~
  Lmidot lmidot Lstrok lstrok N; n; Ncedil ncedil N~ n~ napos ENG eng Omacr omacr =150 Odblac odblac OElig oelig R;
  r; Rcedil rcedil R~ r~ S; s; S/ s/ Scedil scedil S~ s~ Tcedil tcedil T~ t~ Tstrok tstrok Utilde utilde Umacr umacr
  Ubreve ubreve Uring uring Udblac udblac Uogon uogon W/ w/ Y/ y/ Yuml Z; z; Zdot zdot Z~ z~ =192 fnof =1b5 imped
  =1f5 g; =237 jmath =2c6 / Hacek,~ =2d8 Breve,breve DiacriticalDot,dot ring ogon Diacritical_,tilde
  Diacritical?Acute,dblac =311 ]Breve =391 Alpha Beta Gamma Delta Epsilon Zeta Eta Theta Iota Kappa Lambda Mu Nu Xi
  Omicron Pi Rho =3a3 Sigma Tau Upsilon Phi Chi Psi Omega,ohm =3b1 alpha beta gamma delta epsi,epsilon zeta eta
  theta iota kappa lambda mu nu xi omicron pi rho sigmaf,sigmav,varsigma sigma tau upsi,upsilon phi chi psi omega
  =3d1 thetasym,thetav,vartheta Upsi,upsih =3d5 phiv,straightphi,varphi piv,varpi =3dc Gammad digamma,gammad =3f0
  kappav,varkappa rhov,v#ho =3f5 epsiv,straightepsilon,varepsilon backepsilon,bepsi =401 IO@ DJ@ GJ@ Juk@ DS@ Iuk@
  YI@ Jser@ LJ@ NJ@ TSH@ KJ@ =40e Ubr@ DZ@ A@ B@ V@ G@ D@ IE@ ZH@ Z@ I@ J@ K@ L@ M@ N@ O@ P@ R@ S@ T@ U@ F@ KH@ TS@
  CH@ SH@ SHCH@ HARD@ Y@ SOFT@ E@ YU@ YA@ a@ b@ v@ g@ d@ ie@ zh@ z@ i@ j@ k@ l@ m@ n@ o@ p@ r@ s@ t@ u@ f@ kh@ ts@
  ch@ sh@ shch@ hard@ y@ soft@ e@ yu@ ya@ =451 io@ dj@ gj@ juk@ ds@ iuk@ yi@ jser@ lj@ nj@ tsh@ kj@ =45e ubr@ dz@
  =2002 ensp emsp emsp13 emsp14 =2007 numsp puncsp ThinSpace,thinsp VeryThinSpace,hairsp
  NegativeMediumSpace,NegativeThickSpace,NegativeThinSpace,NegativeVeryThinSpace,ZeroWidthSpace zwnj zwj lrm rlm
  dash,hyphen =2013 ndash mdash horbar Verbar,Vert =2018 OpenCurlyQuote,lsquo CloseCurlyQuote,rsquo,rsquor
  lsquor,sbquo =201c OpenCurly?Quote,ldquo CloseCurly?Quote,rdquo,rdquor bdquo,ldquor =2020 dagger Dagger,ddagger
  bull,bullet =2025 nldr hellip,mldr =2030 permil pertenk prime Prime tprime backprime,bprime =2039 lsaquo rsaquo
  =203e OverBar,oline =2041 caret =2043 hybull frasl =204f bsemi =2057 qprime =205f MediumSpace NoBreak
  ApplyFunction,af InvisibleTimes,it InvisibleComma,ic =20ac euro =20db TripleDot,tdot DotDot =2102 Copf,complexes
  =2105 incare =210a gscr HilbertSpace,Hscr,hamilt Hfr,Poincareplane Hopf,quaternions planckh
  hbar,hslash,planck,plankv Iscr,imagline Ifr,Im,image,imagpart Laplacetrf,Lscr,lagran ell =2115 Nopf,naturals
  numero copysr weierp,wp Popf,primes Qopf,rationals Rscr,realine Re,Rfr,real,realpart Ropf,reals rx =2122
  TRADE,trade =2124 Zopf,integers =2127 mho Zfr,zeetrf iiota =212c Bernoullis,Bscr,bernou Cayleys,Cfr =212f escr
  Escr,expectation Fouriertrf,Fscr =2133 Mellintrf,Mscr,phmmat order,orderof,oscr alefsym,aleph beth gimel daleth
  =2145 CapitalDifferentialD,DD DifferentialD,dd ExponentialE,ee,exponentiale ImaginaryI,ii =2153 frac13 frac23
  frac15 frac25 frac35 frac45 frac16 frac56 frac18 frac38 frac58 frac78 =2190 )&,Short)&,l#,>#ow,sl#
  ShortUp&,Up&,u#,up#ow $&,Short$&,r#,(#ow,sr# ]&,Short]&,d#,down#ow )$&,h#,>(#ow Up]&,updown#ow,v#
  Upper)&,nw#,nw#ow Upper$&,ne#,ne#ow Lower$&,se#,se#ow Lower)&,sw#,sw#ow nl#,n>#ow nr#,n(#ow =219d r#w,(squig#ow
  L#,twohead>#ow U# R#,twohead(#ow D# l#tl,>#owtail r#tl,(#owtail )Tee&,mapsto> UpTee&,mapstoup $Tee&,map,mapsto
  ]Tee&,mapstodown =21a9 hook>#ow,l#hk hook(#ow,r#hk l#lp,loop#ow> loop#ow(,r#lp h#w,>(squig#ow nh#,n>(#ow =21b0
  Lsh,lsh Rsh,rsh ldsh rdsh =21b5 cr# cul#,curve#ow> cur#,curve#ow( =21ba /le#ow>,ol# /le#ow(,or#
  )*,>harpoonup,lharu ])*,>harpoondown,lhard $Up*,uh#,upharpoon( )Up*,uharl,upharpoon> $*,rharu,(harpoonup
  ]$*,rhard,(harpoondown $]*,dh#,downharpoon( )]*,dharl,downharpoon> $&)&,(>#ows,rl# Up&]&,ud# )&$&,>(#ows,lr#
  >>#ows,ll# upup#ows,uu# ((#ows,rr# dd#,downdown#ows ReverseEquilibrium,>(harpoons,lrhar
  Equilibrium,(>harpoons,rlhar n)#ow,nlArr n)(#ow,nhArr n$#ow,nrArr ?)&,)#ow,lArr ?Up&,Up#ow,uArr
  ?$&,Implies,$#ow,rArr ?]&,]#ow,dArr ?)$&,)(#ow,hArr,iff ?Up]&,Updown#ow,vArr nwArr neArr seArr swArr L>#ow,lA#
  R(#ow,rA# =21dd zigr# =21e4 )&Bar,l#b $&Bar,r#b =21f5 ]&Up&,du# =21fd lo# ro# ho# ForAll,forall comp,complement
  PartialD,part Exists,exist :Exists,nexist,nexists empty,emptyset,emptyv,varnothing =2207 Del,nabla
  Element,in,isin,isinv :Element,notin,notinva =220b ReverseElement,SuchThat,ni,niv :ReverseElement,notni,notniva
  =220f Product,prod Coproduct,coprod Sum,sum minus MinusPlus,mnplus,mp dotplus,plusdo =2216
  Backslash,setminus,setmn,smallsetminus,ssetmn lowast SmallCircle,compfn =221a Sqrt,radic =221d
  Proportional,prop,propto,varpropto,vprop infin angrt ang,angle angmsd,measuredangle angsph
  VerticalBar,mid,shortmid,smid :VerticalBar,nmid,nshortmid,nsmid ?VerticalBar,par,parallel,shortparallel,spar
  :?VerticalBar,npar,nparallel,nshortparallel,nspar and,wedge or,vee cap cup Integral,int Int iiint,tint
  ContourIntegral,conint,oint Conint,?ContourIntegral Cconint cwint ClockwiseContourIntegral,cwconint
  CounterClockwiseContourIntegral,awconint Therefore,there4,therefore Because,becaus,because ratio Colon,Proportion
  dotminus,minusd =223a mDDot homtht _,<,thick<,thk< back<,b< ac,mstpos acd Vertical_,wr,wreath :_,n< %_,^<,e<
  _%,<e,<^ :_%,n<e,n<^ _Full%,cong <ne :_Full%,ncong __,ap,approx,asymp,thickapprox,thkap :__,nap,napprox
  ape,approx^ apid backcong,bcong CupCap,asymp^ Bump^,Hump]Hump,bump Hump%,bumpe,bump^ Dot%,dot^,esdot dot^dot,eDot
  efDot,fallingdots^ erDot,risingdots^ Assign,colone,colon^ ecolon,^colon ecir,^/ /^,cire =2259 wedg^ vee^ =225c
  .q,trie =225f ^uest,quest^ :%,ne Congruent,^uiv :Congruent,n^uiv =2264 le,l^ -%,ge,g^ LessFull%,lE,l^q
  -Full%,gE,g^q lnE,ln^q gnE,gn^q Lt,NestedLessLess,ll Gt,Nested--,gg between,twixt :CupCap :Less,nless,nlt
  :-,ngt,ngtr :Less%,nle,nl^ :-%,nge,ng^ Less_,less<,l< -_,g<,gtr< :Less_,nl< :-_,ng< Less-,lessgtr,lg
  -Less,gl,gtrless :Less-,ntlg :-Less,ntgl Precedes,pr,prec Succeeds,sc,succ PrecedesSlant%,prcue,preccurly^
  SucceedsSlant%,sccue,succcurly^ Precedes_,prec<,pr< Succeeds_,sc<,succ< :Precedes,npr,nprec :Succeeds,nsc,nsucc
  sub,subset Superset,sup,supset nsub nsup Subset%,sube,subset^ Superset%,supe,supset^ :Subset%,nsube,nsubset^
  :Superset%,nsupe,nsupset^ subne,subsetn^ supne,supsetn^ =228d cupdot UnionPlus,uplus SquareSubset,sqsub,sqsubset
  SquareSuperset,sqsup,sqsupset SquareSubset%,sqsube,sqsubset^ SquareSuperset%,sqsupe,sqsupset^
  SquareIntersection,sqcap SquareUnion,sqcup CirclePlus,oplus CircleMinus,ominus CircleTimes,otimes osol
  CircleDot,odot /led/,ocir /ledast,oast =229d /leddash,odash [plus,plusb [minus,minusb [times,timesb
  dotsquare,sdotb $Tee,vdash )Tee,dashv ]Tee,top UpTee,bot,bottom,perp =22a7 models ?$Tee,vDash Vdash Vvdash VDash
  nvdash nvDash nVdash nVDash prurel =22b2 )|,var.>,vltri $|,var.(,vrtri )|%,ltrie,.>^ $|%,rtrie,.(^ origof imof
  multimap,mumap hercon intcal,intercal veebar =22bd barvee angrtvb lrtri Wedge,bigwedge,xwedge Vee,bigvee,xvee
  Intersection,bigcap,xcap Union,bigcup,xcup Diamond,diam,diamond sdot Star,sstarf divideontimes,divonx bowtie
  ltimes rtimes >threetimes,lthree (threetimes,rthree back<^,b<e curlyvee,cuvee curlywedge,cuwed Sub,Subset
  Sup,Supset Cap Cup fork,pitchfork epar lessdot,ltdot gtdot,gtrdot Ll Gg,ggg Less%-,leg,less^gtr
  -%Less,gel,gtr^less =22de cuepr,curly^prec cuesc,curly^succ :PrecedesSlant%,nprcue :SucceedsSlant%,nsccue
  :SquareSubset%,nsqsube :SquareSuperset%,nsqsupe =22e6 ln< gn< precn<,prn< scn<,succn< :)|,nltri,n.> :$|,nrtri,n.(
  :)|%,nltrie,n.>^ :$|%,nrtrie,n.(^ vellip ctdot utdot dtdot disin isinsv isins isindot notinvc notinvb =22f9 isinE
  nisd xnis nis notnivc notnivb =2305 barwed,barwedge Barwed,doublebarwedge =2308 )Ceiling,lceil $Ceiling,rceil
  )Floor,lfloor $Floor,rfloor drcrop dlcrop urcrop ulcrop bnot =2312 profline profsurf =2315 telrec target =231c
  ulcorn,ulcorner urcorn,urcorner dlcorn,llcorner drcorn,lrcorner =2322 frown,sfrown smile,ssmile =232d @lcty
  profalar =2336 topbot =233d ovbar =233f solbar =237c angz# =23b0 lmoust,lmoustache rmoust,rmoustache =23b4
  OverBracket,tbrk UnderBracket,bbrk bbrktbrk =23dc OverParenthesis UnderParenthesis OverBrace UnderBrace =23e2
  trpezium =23e7 elinters =2423 blank =24c8 /ledS,oS =2500 HorizontalLine,[h =2502 [v =250c [dr =2510 [dl =2514 [ur
  =2518 [ul =251c [vr =2524 [vl =252c [hd =2534 [hu =253c [vh =2550 [H [V [dR [Dr [DR [dL [Dl [DL [uR [Ur [UR [uL
  [Ul [UL [vR [Vr [VR [vL [Vl [VL [Hd [hD [HD [Hu [hU [HU [vH [Vh [VH =2580 uhblk =2584 lhblk =2588 block =2591
  blk14 blk12 blk34 =25a1 Square,squ,square =25aa FilledVerySmallSquare,blacksquare,squarf,squf EmptyVerySmallSquare
  =25ad rect marker =25b1 fltns =25b3 big.up,xutri black.,utrif .,utri =25b8 black.(,rtrif rtri,.( =25bd
  big.down,xdtri black.down,dtrif dtri,.down =25c2 black.>,ltrif ltri,.> =25ca loz,lozenge cir =25ec tridot =25ef
  big/,x/ =25f8 ultri urtri lltri EmptySmallSquare FilledSmallSquare =2605 bigstar,starf star =260e phone =2640
  female =2642 male =2660 spades,spadesuit =2663 clubs,clubsuit =2665 hearts,heartsuit diamondsuit,diams =266a sung
  =266d flat natur,natural sharp =2713 check,checkmark =2717 cross =2720 malt,maltese =2736 sext =2758
  VerticalSeparator =2772 lbbrk rbbrk =27c8 bsolhsub suphsol =27e6 )?Bracket,lobrk $?Bracket,robrk
  )AngleBracket,lang,langle $AngleBracket,rang,rangle Lang Rang loang roang =27f5 Long)&,long>#ow,xl#
  Long$&,long(#ow,xr# Long)$&,long>(#ow,xh# ?Long)&,Long>#ow,xlArr ?Long$&,Long(#ow,xrArr ?Long)$&,Long>(#ow,xhArr
  =27fc longmapsto,xmap =27ff dzigr# =2902 nvlArr nvrArr nvH# Map =290c lb# bkarow,rb# lB# dbkarow,rB# RB#,drbkarow
  DDotrahd Up&Bar ]&Bar =2916 R#tl =2919 latail ratail lAtail rAtail l#fs r#fs l#bfs r#bfs =2923 nwarhk nearhk
  hksearow,searhk hkswarow,swarhk nwnear nesear,toea seswar,tosa swnwar =2933 r#c =2935 cud#r ldca rdca cud#l l#pl
  =293c cur#m cul#p =2945 r#pl =2948 h#cir U#ocir lurdshar ldrushar =294e )$* $Up]* ])$* )Up]* )*Bar $*Bar $Up*Bar
  $]*Bar ])*Bar ]$*Bar )Up*Bar )]*Bar )Tee* $Tee* $UpTee* $]Tee* ])Tee* ]$Tee* )UpTee* )]Tee* lHar uHar rHar dHar
  luruhar ldrdhar ruluhar rdldhar lharul llhard rharul lrhard UpEquilibrium,udhar ReverseUpEquilibrium,duhar
  RoundImplies er# <r# l#< r#< r#ap ltl# =2978 gtr# subr# =297b supl# lfisht rfisht ufisht dfisht =2985 lopar ropar
  =298b lbrke rbrke lbrkslu rbrksld lbrksld rbrkslu langd rangd lparlt rpargt gtlPar ltrPar =299a vzigzag =299c
  vangrt angrtvbd =29a4 ange range dwangle uwangle angmsdaa angmsdab angmsdac angmsdad angmsdae angmsdaf angmsdag
  angmsdah bemptyv demptyv cemptyv raemptyv laemptyv ohbar omid opar =29b9 operp =29bb olcross odsold =29be olcir
  ofcir olt ogt cirscir cirE solb bsolb =29c9 [[ =29cd trisb rtriltri )|Bar $|Bar =29dc iinfin infintie nvinfin
  =29e3 eparsl smeparsl ^vparsl =29eb blacklozenge,lozf =29f4 RuleDelayed =29f6 dsol =2a00 bigodot,xodot
  bigoplus,xoplus bigotimes,xotime =2a04 biguplus,xuplus =2a06 bigsqcup,xsqcup =2a0c iiiint,qint fpartint =2a10
  cirfnint awint rppolint scpolint npolint pointint quatint intlarhk =2a22 pluscir plusacir <plus plusdu plus<
  plustwo =2a29 mcomma minusdu =2a2d loplus roplus Cross timesd timesbar =2a33 smashp lotimes rotimes otimesas
  Otimes odiv triplus triminus tritime intprod,iprod =2a3f amalg capdot =2a42 ncup ncap capand cupor cupcap capcup
  cupbrcap capbrcup cupcup capcap ccups ccaps =2a50 ccupssm =2a53 And Or andand oror orslope andslope =2a5a andv orv
  andd ord =2a5f wedbar =2a66 sdote =2a6a <dot =2a6d congdot easter apacir apE eplus pluse E< Colone % =2a77
  ddots^,eDDot ^uivDD ltcir gtcir ltquest gtquest LessSlant%,l^slant,les -Slant%,g^slant,ges lesdot gesdot lesdoto
  gesdoto lesdotor gesdotol lap,lessapprox gap,gtrapprox lne,ln^ gne,gn^ lnap,lnapprox gnap,gnapprox lEg,less^qgtr
  gEl,gtr^qless l<e g<e l<g g<l lgE glE lesges gesles els,^slantless egs,^slantgtr elsdot egsdot el eg =2a9d <l <g
  <lE <gE LessLess -- =2aa4 glj gla ltcc gtcc lescc gescc smt lat smte late bumpE Precedes%,pre,prec^
  Succeeds%,sce,succ^ =2ab3 prE scE precn^q,prnE scnE,succn^q prap,precapprox scap,succapprox precnapprox,prnap
  scnap,succnapprox Pr Sc subdot supdot subplus supplus submult supmult subedot supedot subE,subset^q supE,supset^q
  sub< sup< =2acb subnE,subsetn^q supnE,supsetn^q =2acf csub csup csube csupe subsup supsub subsub supsup suphsub
  supdsub forkv topfork mlcp =2ae4 Dashv,?)Tee =2ae6 Vdashl Barv vBar vBarv =2aeb Vbar : b: rnmid cirmid midcir
  topcir nhpar par< =2afd parsl =fb00 fflig filig fllig ffilig ffllig =66+6a fjlig =223d+331 race =223e+333 acE
  =219d+338 nr#w =2202+338 npart =2242+338 :%_,ne< =224b+338 napid =224e+338 :Hump]Hump,nbump :Hump%,nbumpe nedot
  =2266+338 nlE,nl^q :-Full%,ngE,ng^q =226a+338 :LessLess,nLtv :--,nGtv =227f+338 :Succeeds_ =228f+338 :SquareSubset
  :SquareSuperset =22d8+338 nLl nGg =22f5+338 notindot =22f9+338 notinE =2933+338 nr#c =29cf+338 :)|Bar :$|Bar
  =2a6d+338 ncongdot =2a70+338 napE =2a7d+338 :LessSlant%,nl^slant,nles :-Slant%,ng^slant,nges =2aa1+338
  :NestedLessLess :Nested-- =2aaf+338 :Precedes%,npre,nprec^ :Succeeds%,nsce,nsucc^ =2ac5+338 nsubE,nsubset^q
  nsupE,nsupset^q =205f+200a ThickSpace =3c+20d2 nvlt =3e+20d2 nvgt =2220+20d2 nang =223c+20d2 nv< =224d+20d2 nvap
  =2264+20d2 nvle nvge =226a+20d2 nLt nGt =2282+20d2 :Subset,nsubset,vnsub :Superset,nsupset,vnsup =22b4+20d2
  nvltrie nvrtrie =3d+20e5 bne =2261+20e5 bn^uiv =2afd+20e5 nparsl =2229+fe00 caps cups =2268+fe00 lvertn^q,lvnE
  gvertn^q,gvnE =228a+fe00 varsubsetn^,vsubne varsupsetn^,vsupne =2293+fe00 sqcaps sqcups =22da+fe00 lesg gesl
  =2aac+fe00 smtes lates =2acb+fe00 varsubsetn^q,vsubnE varsupsetn^q,vsupnE"

private def nameParts : List (Char × List Char) := "#$%&()*-./:;<>?@[]^_|~".toList.zip (Text.wordsOf "
  arr Right Equal Arrow right Left Vector Greater triangle circ Not acute sim left Double cy box Down eq Tilde Triangle
  caron")

private def entitiesFrom (code : Nat) (added : List Char) : List (List Char) → List (List Char × List Char)
  | [] => []
  | ('=' :: codes) :: rest =>
    let numbers := (Text.pieces ['+'] codes).map (Text.numberOf 16)
    entitiesFrom (numbers.headD 0) (numbers.tail.map Char.ofNat) rest
  | names :: rest =>
    (Text.pieces [','] names).map (fun name =>
      (name.flatMap fun c => (nameParts.lookup c).getD [c], Char.ofNat code :: added)) ++
      entitiesFrom (code + 1) added rest

/-- The letters of three styles, apart from those with names of their own. -/
private def styledLetters : List (List Char × List Char) :=
  [("scr", 0x1d49c), ("fr", 0x1d504), ("opf", 0x1d538)].flatMap fun (style, first) =>
    "ABCDEFGHIJKLMNOPQRSTUVWXYZabcdefghijklmnopqrstuvwxyz".toList.zipIdx.map fun (letter, i) =>
      (letter :: style.toList, [Char.ofNat (first + i)])

private def markedEntities : List (List Char × List Char) :=
  entitiesFrom 0 [] (Text.wordsOf entityText) ++ styledLetters

private def unmarked (name : List Char) : List Char := name.filter (· ≠ '!')

def entities : List (List Char × List Char) := markedEntities.map fun (name, cs) => (unmarked name, cs)

def legacyEntities : List (List Char) := ((markedEntities.map Prod.fst).filter (·.contains '!')).map unmarked

def named? (name : List Char) : Option (List Char) := entities.lookup name

/-! ## References to characters

A reference to a character is an ampersand and a name or a number.
-/

def replacement : Char := Char.ofNat 0xFFFD

/-- The characters that numbers from 128 to 159 have come to mean. -/
def controlMeanings : List Nat := [
  0x20ac, 0x81, 0x201a, 0x192, 0x201e, 0x2026, 0x2020, 0x2021, 0x2c6, 0x2030, 0x160, 0x2039, 0x152, 0x8d,
  0x17d, 0x8f, 0x90, 0x2018, 0x2019, 0x201c, 0x201d, 0x2022, 0x2013, 0x2014, 0x2dc, 0x2122, 0x161, 0x203a,
  0x153, 0x9d, 0x17e, 0x178]

def isUnused (n : Nat) : Bool :=
  (decide (1 ≤ n) && decide (n ≤ 8)) || n == 0xb || (decide (0xe ≤ n) && decide (n ≤ 0x1f)) || n == 0x7f ||
    (decide (0xfdd0 ≤ n) && decide (n ≤ 0xfdef)) || n % 0x10000 == 0xfffe || n % 0x10000 == 0xffff

def numbered (n : Nat) : List Char :=
  if n = 0 then [replacement]
  else if 0x80 ≤ n ∧ n ≤ 0x9f then [Char.ofNat (controlMeanings.getD (n - 0x80) n)]
  else if (0xD800 ≤ n ∧ n ≤ 0xDFFF) ∨ 0x10FFFF < n then [replacement]
  else if isUnused n then []
  else [Char.ofNat n]

/-- The longest beginning of a name that counts without a semicolon, with what it stands for. -/
def legacy? (name : List Char) : Nat → Option (List Char × Nat)
  | 0 | 1 => none
  | n + 2 =>
    let part := name.take (n + 2)
    if legacyEntities.contains part then (named? part).map fun cs => (cs, n + 2)
    else legacy? name (n + 1)

def isNameChar (c : Char) : Bool := !"\t\n\x0c <&#;".toList.contains c

/-- The characters that a reference stands for, and its length.  The ampersand is already read. -/
def reference? (cs : List Char) : Option (List Char × Nat) :=
  let closed (n : Nat) : Nat := if (cs.drop n).head? == some ';' then n + 1 else n
  match cs with
  | '#' :: x :: rest =>
    if x == 'x' || x == 'X' then
      let digits := rest.takeWhile fun c => (Text.hexDigit? c).isSome
      if digits.isEmpty then none else some (numbered (Text.numberOf 16 digits), closed (digits.length + 2))
    else
      let digits := (x :: rest).takeWhile Char.isDigit
      if digits.isEmpty then none else some (numbered (Text.numberOf 10 digits), closed (digits.length + 1))
  | _ =>
    let name := (cs.take 32).takeWhile isNameChar
    let full := if (cs.drop name.length).head? == some ';' then named? name else none
    match full with
    | some meaning => some (meaning, name.length + 1)
    | none => legacy? name name.length

def referenceMatch : Text.Matcher := fun _ cs =>
  match cs with
  | '&' :: rest => (reference? rest).bind fun (meaning, n) => Text.Match.ofLength? (n + 1) meaning
  | _ => none

def unescape (cs : List Char) : List Char := Text.substitute referenceMatch cs

/-- A text with references for the characters that mean something. -/
def escape (cs : List Char) : List Char :=
  cs.flatMap fun c =>
    if c == '&' then "&amp;".toList
    else if c == '<' then "&lt;".toList
    else if c == '>' then "&gt;".toList
    else [c]

/-- A text in quotes with references for the characters that mean something. -/
def escapeQuoted (cs : List Char) : List Char :=
  (escape cs).flatMap fun c => if c == '"' then "&quot;".toList else [c]

end StreamBot.Html
