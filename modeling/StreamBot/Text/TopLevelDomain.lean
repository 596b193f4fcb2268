import StreamBot.Text.Search

/-! # Top-level domains

The last parts of the names of hosts.
-/

namespace StreamBot.Text

/-- Words of which each one may begin with the number of the letters that it has in common with the one before it. -/
def unfoldedFrom (previous : List Char) : List (List Char) → List (List Char)
  | [] => []
  | [] :: rest => unfoldedFrom previous rest
  | (c :: cs) :: rest =>
    let word := if c.isDigit then previous.take (c.toNat - 48) ++ cs else c :: cs
    word :: unfoldedFrom word rest

def topLevelDomains : List (List Char) := unfoldedFrom [] (wordsOf "
  aaa 2rp 1bb 3ott 3vie 2c 2le 2ogado 2udhabi 1c 2ademy 2centure 3ountant 9ts 2o 2tor 1d 2s 2ult 1e 2g 2ro 2tna 1f 2l
  2rica 1g 2akhan 2ency 1i 2g 2rbus 3force 3tel 1kdn 1l 2ibaba 3pay 2lfinanz 3state 3y 2sace 3tom 1m 2azon
  2ericanexpress 8family 3x 2fam 2ica 2sterdam 1nalytics 2droid 2quan 2z 1o 2l 1partments 2p 3le 1q 2uarelle 1r 2ab
  3mco 2chi 2my 2pa 2t 3e 1s 2da 2ia 2sociates 1t 2hleta 2torney 1u 2ction 2di 4ble 4o 2spost 2thor 3o 4s 1vianca 1w
  2s 1x 2a 1z 2ure ba 2by 2idu 2namex 4narepublic 3d 3k 2r 3celona 4laycard 7s 3efoot 3gains 2seball 3ketball 2uhaus
  2yern 1b 2c 2t 2va 1cg 2n 1d 1e 2ats 3uty 2er 2ntley 2rlin 2st 4buy 2t 1f 1g 1h 2arti 1i 2ble 2d 2ke 2ng 4o 2o 2z
  1j 1lack 5friday 2ockbuster 3g 3omberg 2ue 1m 2s 2w 1n 2pparibas 1o 2ats 2ehringer 2fa 2m 2nd 2o 3k 4ing 2sch 3tik
  4on 2t 2utique 2x 1r 2adesco 2idgestone 2oadway 3ker 3ther 2ussels 1s 1t 1uild 5ers 2siness 2y 2zz 1v 1w 1y 1z 2h
  ca 2b 2fe 2l 3l 3vinklein 2m 3era 3p 2non 2petown 3ital 7one 2r 3avan 3ds 3e 4er 6s 3s 2sa 3e 3h 3ino 2t 3ering
  3holic 1ba 2n 2re 2s 1c 1d 1enter 2o 2rn 1f 2a 2d 1g 1h 2anel 4nel 3rity 3se 3t 2eap 2intai 2ristmas 3ome 2urch 1i
  2priani 2rcle 2sco 2tadel 3i 4c 3y 4eats 1k 1l 2aims 2eaning 2ick 3nic 5que 2othing 3ud 2ub 4med 1m 1n 1o 2ach 2des
  2ffee 2llege 3ogne 2m 3cast 3mbank 4unity 3pany 5re 4uter 3sec 2ndos 3struction 4ulting 3tact 4ractors 2oking 3l 3p
  2rsica 2untry 3pon 6s 3rses 1pa 1r 2edit 6card 6union 2icket 2own 2s 2uise 6s 1u 2isinella 1v 1w 1x 1y 2mru 2ou 1z
  dabur 2d 2nce 2ta 3e 3ing 3sun 2y 1clk 1ds 1e 2al 4er 4s 2gree 2livery 3l 3oitte 3ta 2mocrat 2ntal 4ist 2si 4gn 2v
  1hl 1iamonds 2et 2gital 2rect 6ory 2scount 5ver 3h 2y 1j 1k 1m 1np 1o 2cs 3tor 2g 2mains 2t 2wnload 1rive 1tv 1ubai
  2nlop 2pont 2rban 1vag 2r 1z earth 2t 1c 2o 1deka 2u 3cation 1e 1g 1mail 2erck 1nergy 2gineer 8ing 2terprises 1pson
  1quipment 1r 2icsson 2ni 1s 2q 2tate 1t 2isalat 1u 2rovision 2s 1vents 1xchange 2pert 3osed 3ress 2traspace fage
  2il 3rwinds 3th 2mily 2n 3s 2rm 4ers 2shion 3t 1edex 2edback 2rrari 4ero 1i 2delity 3o 2lm 2nal 4nce 6ial 2re
  4stone 3mdale 2sh 4ing 2t 3ness 1j 1k 1lickr 3ghts 3r 2orist 3wers 2y 1m 1o 2o 3d 3tball 2rd 3ex 3sale 3um
  2undation 2x 1r 2ee 3senius 2l 2ogans 3ntdoor 5ier 1tr 1ujitsu 2n 3d 2rniture 2tbol 1yi ga 2l 3lery 4o 4up 2me 4s
  2p 2rden 2y 1b 2iz 1d 2n 1e 2a 2nt 4ing 2orge 1f 1g 2ee 1h 1i 2ft 4s 2ves 3ing 1l 2ass 2e 2obal 4o 1m 2ail 2bh 2o
  2x 1n 1odaddy 2ld 4point 3f 2o 3dyear 3g 4le 2p 2t 2v 1p 1q 1r 2ainger 3phics 3tis 2een 2ipe 2ocery 3up 1s 1t 1u
  2ardian 2cci 2ge 2ide 3tars 2ru 1w 1y hair 2mburg 2ngout 2us 1bo 1dfc 4bank 1ealth 6care 2lp 3sinki 2re 3mes 1iphop
  2samitsu 2tachi 2v 1k 2t 1m 1n 1ockey 2ldings 3iday 2medepot 4goods 4s 5ense 2nda 2rse 2spital 3t 4ing 2t 3els
  3mail 2use 2w 1r 1sbc 1t 1u 2ghes 1yatt 2undai ibm 1cbc 2e 2u 1d 1e 2ee 1fm 1kano 1l 1m 2amat 2db 2mo 4bilien 1n 2c
  2dustries 2finiti 3o 2g 2k 2stitute 3urance 5e 2t 3ernational 3uit 2vestments 1o 1piranga 1q 1r 2ish 1s 2maili 2t
  3anbul 1t 2au 2v jaguar 2va 1cb 1e 2ep 2tzt 2welry 1io 1ll 1m 2p 1nj 1o 2bs 3urg 2t 2y 1p 2morgan 2rs 1uegos 2niper
  kaufen 1ddi 1e 2rryhotels 5logistics 5properties 1fh 1g 1h 1i 2a 2ds 2m 2nder 4le 2tchen 2wi 1m 1n 1oeln 2matsu
  2sher 1p 2mg 2n 1r 2d 2ed 1uokgroup 1w 1y 2oto 1z la 2caixa 2mborghini 3er 2ncaster 3d 4rover 3xess 2salle 2t 3ino
  3robe 2w 3yer 1b 1c 1ds 1ease 2clerc 2frak 2gal 3o 2xus 1gbt 1i 2dl 2fe 4insurance 4style 2ghting 2ke 2lly 2mited
  3o 2ncoln 3k 2psy 2ve 3ing 1k 1lc 2p 1oan 4s 2cker 3us 2l 2ndon 2tte 4o 2ve 1pl 3financial 1r 1s 1t 2d 3a 1u
  2ndbeck 2xe 3ury 1v 1y ma 2drid 2if 3son 2keup 2n 3agement 3go 2p 2rket 6ing 6s 3riott 3shalls 2ttel 1ba 1c 2kinsey
  1d 1e 2d 3ia 2et 2lbourne 2me 3orial 2n 3u 2rckmsd 1g 1h 1iami 2crosoft 2l 2ni 3t 2t 3subishi 1k 1l 2b 2s 1m 2a 1n
  1o 2bi 4le 2da 2e 2i 2m 2nash 3ey 3ster 2rmon 3tgage 2scow 2to 4rcycles 2v 3ie 1p 1q 1r 1s 2d 1t 2n 2r 1u 2seum 3ic
  1v 1w 1x 1y 1z na 2b 2goya 2me 2tura 2vy 1ba 1c 1e 2c 2t 3bank 3flix 3work 2ustar 2w 3s 2xt 4direct 3us 1f 2l 1g 2o
  1hk 1i 2co 2ke 3on 2nja 2ssan 5y 1l 1o 2kia 2rton 2w 3ruz 3tv 1p 1r 2a 2w 1tt 1u 1yc 1z obi 2server 1ffice 1kinawa
  1layan 6group 2dnavy 2lo 1m 2ega 1ne 2g 2ion 2l 3ine 1oo 1pen 1racle 3nge 2g 3anic 2igins 1saka 1tsuka 2t 1vh pa
  2ge 2nasonic 2ris 3s 3tners 4s 4y 2y 1ccw 1e 2t 1f 2izer 1g 1h 2armacy 2d 2ilips 2one 3to 5graphy 5s 2ysio 1ics
  3tet 4ures 2d 2n 3g 3k 2oneer 2zza 1k 1l 2ace 3y 4station 2umbing 3s 1m 1n 2c 1ohl 2ker 2litie 2rn 2st 1r 2america
  3xi 2ess 2ime 2o 3d 4uctions 3f 3gressive 3mo 3perties 7y 3tection 2u 3dential 1s 1t 1ub 1w 2c 1y qa 1pon 1uebec
  3st racing 2dio 1e 2ad 3lestate 4tor 5y 2cipes 2d 3stone 3umbrella 2hab 2ise 5n 3t 2liance 2n 3t 4als 2pair 3ort
  3ublican 2st 4aurant 2view 6s 2xroth 1ich 4ardli 3oh 2l 2o 2p 1o 2cher 3ks 2deo 2gers 2om 1s 2vp 1u 2gby 2hr 2n 1w
  2e 1yukyu sa 2arland 2fe 4ty 2kura 2le 3on 2msclub 4ung 2ndvik 7coromant 3ofi 2p 2rl 2s 2ve 2xo 1b 2i 2s 1c 2a 2b
  2haeffler 3midt 3olarships 4ol 3ule 3warz 2ience 2ot 1d 1e 2arch 3t 2cure 5ity 2ek 2lect 2ner 2rvices 2ven 2w 2x 3y
  1fr 1g 1h 2angrila 3rp 3w 2ell 2ia 3ksha 2oes 3p 4ping 3uji 3w 4time 1i 2lk 2na 3gles 2te 1j 1k 2i 3n 2y 3pe 1l
  2ing 1m 2art 2ile 1n 2cf 1o 2ccer 3ial 2ftbank 4ware 2hu 2lar 3utions 2ng 3y 2y 1pa 3ce 2ort 3t 1r 2l 1s 1t 2ada
  3ples 3r 3tebank 5farm 2c 3group 2ockholm 3rage 4e 2ream 2udio 4y 2yle 1u 2cks 2pplies 5y 4ort 2rf 3gery 2zuki 1v
  1watch 2iss 1x 1y 2dney 2stems 1z tab 2ipei 2lk 2obao 2rget 2tamotors 4r 3too 2x 3i 1c 2i 1d 2k 1eam 2ch 4nology 2l
  2masek 2nnis 2va 1f 1g 1h 2d 2eater 5re 1iaa 2ckets 2enda 2ps 2res 3ol 1j 2maxx 2x 1k 2maxx 1l 1m 2all 1n 1o 2day
  2kyo 2ols 2p 2ray 2shiba 2tal 2urs 2wn 2yota 3s 1r 2ade 4ing 3ining 3vel 6ers 9insurance 2ust 2v 1t 1ube 2i 2nes
  2shu 1v 2s 1w 1z ua 1bank 2s 1g 1k 1nicom 3versity 2o 1ol 1ps 1s 1y 1z va 2cations 2na 3guard 1c 1e 2gas 2ntures
  2risign 3mögensberater 9beratung 3sicherung 2t 1g 1i 2ajes 2deo 2g 2king 2llas 2n 2p 2rgin 2sa 3ion 2va 3o
  1laanderen 1n 1odka 2lkswagen 3vo 2te 3ing 3o 2yage 1u wales 3mart 3ter 2ng 4gou 2tch 5es 1eather 7channel 2bcam
  3er 3site 2dding 2ibo 3r 1f 1hoswho 1ien 2ki 2lliamhill 2n 3dows 3e 3ners 1me 1olterskluwer 2odside 2rk 4s 3ld 2w
  1s 1tc 2f xbox 1erox 1finity 1ihuan 2n 1n--11b4c3d 5ck2e1b 5qqw23a 42scrj9c 430rr7y 5bst00m 5ds443g 5e0b707e
  5hcrj9c 5pxu8k 442c2d9a 55br5cyl 8j9c 6q11c 5dbrk0ce 5gbrim 454b7fta0cc 55qw42g 7x5d 5su34j936bgsg 5tzm5g 46frz82g
  5qq986b3xl 480adxhks 7o21a 7qecdr1a 7sehdb 8wg 5y0a063a 490a3ac 7e 7is 5dbq2a 5et52u 5krt00a 4b4w605ferd
  5ck1b9a5dre4c 4c1avg 52br7g 5ck2b3b 7wcxetd 5g4bki 5lchc0ea0b2g2a9gcd 5zr694b 7s0t 7u2d 4d1acj3b 7lf 4e1a4c
  5ckvdtc9d 5fvy88h 4fct429k 5hbei 5iq228c5hs 764b 7s8s 7z9s 5jq720a 5lw351e 5pcrj9c3d 5zc2c9e2c 6ys8d69uvgm 4g2xx48c
  5ckr3f0f 5ecrj9c 5k3at1e 4h2breg3eve 8j9c 99c8c 5xt814e 4i1b6b1a6a2e 5mr513n 5o0a7i 4j1aef 7mh 56w193g 5lq480n2rg
  5vr189m 4kcrx77d1x4a 5prw13d 7y57d 6ut3i 4l1acc 5gbbat1ad8j 4mgb2ddes 79awbf 7a3a3ejt 9a4f16a 9a4fra 87c0bbn0a
  8akc7dvf 9m7a8h 8b2bd 8h1a3hjkrd 8i9a5eva00b 99azgqp6j 8yh7gpa 7bh1a 91a71e 7c0a9azcg 8a7dzdo 8pq6gpa1a
  7erp4a5d4a87g 9p4a5d4ar 7gu82a 7i4ecexp 7pl2fh 7qly7c0a67fbc 9y7cvafr 7t3dhd 8f8fl 8x2b 7x4cd0ab 5ix082f 7891f
  5k1bu44c 5xtq1m 4ngbc5azd 7e9e0a 7rx 5nx388a 5ode 5qv7f 9s00ema 5yqy26a 4o3cw4h 5gbpf8fl 5tu796d 4p1acf 7i 5gbs0dh
  5ssy2u 4q7ce6a 59jyb4c 5cka1pmc 5xa6a 7m 4rhqv96g 5ovu88b 5vc1e0am3e 4s9brj9c 5es554g 4t60b56a 5ckwe 5iq49xqyj
  4unup4y 4vermgensberater-ctb 9ensberatung-pwb 5hquv 5uq861b 4w4r85el8fhu5dnra 7s40l 5gbh1c 7l6a 4xhq521b
  5kc2al3hye2a 8dl3a5ee0h 4y9a3aq 5fro4i67o 5gbi2ammx 4zfr164b 1xx 1yz yachts 2hoo 2maxun 2ndex 1e 1odobashi 2ga
  2kohama 2u 3tube 1t 1un zappos 2ra 1ero 1ip 1m 1one 1uerich 1w ελ 1υ бг 1ел дети ею католик 1ом мкд 1он 2сква
  онлайн 1рг рус 1ф сайт 1рб укр қаз հայ ישראל קום ابوظبي 1تصالات 1رامكو 1لاردن 2بحرين 2جزائر 2سعودية 7ه 6یة 7ۃ
  2عليان 2مغرب 2يمن 1مارات 1يران 1یران بارت 2زار 1يتك 1ھارت تونس سودان 2ريا 4ة شبكة عراق 2ب 1مان فلسطين قطر كاثوليك
  1وم مصر 1ليسيا 1وريتانيا 2قع همراه پاكستان 2کستان ڀارت कॉम नेट भारत 4म् 3ोत संगठन বাংলা ভারত 2ৰত ਭਾਰਤ ભારત ଭାରତ
  இந்தியா 1லங்கை சிங்கப்பூர் భారత్ ಭಾರತ ഭാരതം ලංකා คอม ไทย ລາວ გე みんな アマゾン クラウド グーグル コム ストア セール ファッション ポイント 世界 中信 1国
  1國 1文网 亚马逊 企业 佛山 信息 健康 八卦 公司 1益 台湾 1灣 商城 1店 1标 嘉里 2大酒店 在线 大拿 天主教 娱乐 家電 广东 微博 慈善 我爱你 手机 招聘 政务 1府 新加坡 1闻 时尚 書籍 机构 淡马锡
  游戏 澳門 1门 点看 移动 组织机构 网址 1店 1站 1络 联通 臺灣 谷歌 购物 通販 集团 電訊盈科 飞利浦 食品 餐厅 香格里拉 1港 닷넷 1컴 삼성 한국")

end StreamBot.Text
