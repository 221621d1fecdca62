import TextFeatures.Unicode.Table

namespace TextFeatures.Unicode.Script

-- The scripts that use a code point, where they are not just the script it belongs to.
def scriptExtensions : Table (List String) := [
  namesRow 0xb7 0xb7 "b7:avst.cari.copt.dupl.elba.geor.glag.gong.goth.grek.hani.latn.lydi.mahj.perm.shaw",
  namesRow 0x2bc 0x2cb "2bc:beng.cyrl.deva.latn.lisu.thai.toto 2c7:bopo.latn 2c9-2cb:bopo.latn",
  namesRow 0x2cd 0x2d9 "2cd:latn.lisu 2d7:latn.thai 2d9:bopo.latn",
  namesRow 0x300 0x300 "300:cher.copt.cyrl.grek.latn.perm.sunu.tale",
  namesRow 0x301 0x302 "301:cher.cyrl.grek.latn.osge.sunu.tale.todr 302:cher.cyrl.latn.tfng",
  namesRow 0x303 0x303 "303:glag.latn.sunu.syrc.thai",
  namesRow 0x304 0x304 "304:aghb.cher.copt.cyrl.goth.grek.latn.osge.syrc.tfng.todr",
  namesRow 0x305 0x306 "305:copt.elba.glag.goth.kana.latn 306:cyrl.grek.latn.perm",
  namesRow 0x307 0x307 "307:copt.dupl.hebr.latn.perm.syrc.tale.tfng.todr",
  namesRow 0x308 0x309 "308:armn.cyrl.dupl.goth.grek.hebr.latn.perm.syrc.tale 309:latn.tfng",
  namesRow 0x30a 0x30c "30a:dupl.latn.syrc 30b:cher.cyrl.latn.osge 30c:cher.latn.tale",
  namesRow 0x30d 0x311 "30d:latn.sunu 30e:ethi.latn 310:latn.sunu 311:cyrl.latn.todr",
  namesRow 0x313 0x323 "313:grek.latn.perm.todr 320:latn.syrc 323:cher.dupl.kana.latn.syrc",
  namesRow 0x324 0x32e "324:cher.dupl.latn.syrc 325:latn.syrc 32d:latn.sunu.syrc 32e:latn.syrc",
  namesRow 0x330 0x345 "330:cher.latn.syrc 331:aghb.cher.goth.latn.sunu.thai 342:grek 345:grek",
  namesRow 0x358 0x375 "358:latn.osge 35e:aghb.latn.todr 363-36f:latn 374-375:copt.grek",
  namesRow 0x483 0x487 "483:cyrl.perm 484:cyrl.glag 485-486:cyrl.latn 487:cyrl.glag",
  namesRow 0x589 0x60c "589:armn.geor.glag 60c:arab.gara.nkoo.rohg.syrc.thaa.yezi",
  namesRow 0x61b 0x61c "61b:arab.gara.nkoo.rohg.syrc.thaa.yezi 61c:arab.syrc.thaa",
  namesRow 0x61f 0x61f "61f:adlm.arab.gara.nkoo.rohg.syrc.thaa.yezi",
  namesRow 0x640 0x655 "640:adlm.arab.mand.mani.ougr.phlp.rohg.sogd.syrc 64b-655:arab.syrc",
  namesRow 0x660 0x6d4 "660-669:arab.thaa.yezi 670:arab.syrc 6d4:arab.rohg",
  namesRow 0x951 0x951 "951:beng.deva.gran.gujr.guru.knda.latn.mlym.orya.shrd.taml.telu.tirh",
  namesRow 0x952 0x952 "952:beng.deva.gran.gujr.guru.knda.latn.mlym.orya.taml.telu.tirh",
  namesRow 0x964 0x964 "964:beng.deva.dogr.gong.gonm.gran.gujr.guru.knda.mahj.mlym.nand.onao.orya.sind.sinh.sylo.takr.taml.telu.tirh",
  namesRow 0x965 0x965 "965:beng.deva.dogr.gong.gonm.gran.gujr.gukh.guru.knda.limb.mahj.mlym.nand.onao.orya.sind.sinh.sylo.takr.taml.telu.tirh",
  namesRow 0x966 0xa6f "966-96f:deva.dogr.kthi.mahj 9e6-9ef:beng.cakm.sylo a66-a6f:guru.mult",
  namesRow 0xae6 0xcef "ae6-aef:gujr.khoj be6-bf3:gran.taml ce6-cef:knda.nand.tutg",
  namesRow 0x1040 0x16ed "1040-1049:cakm.mymr.tale 10fb:geor.glag.latn 16eb-16ed:runr",
  namesRow 0x1735 0x1805 "1735-1736:buhd.hano.tagb.tglg 1802-1803:mong.phag 1805:mong.phag",
  namesRow 0x1cd0 0x1cd2 "1cd0:beng.deva.gran.knda 1cd1:deva 1cd2:beng.deva.gran.knda",
  namesRow 0x1cd3 0x1cd7 "1cd3:deva.gran.knda 1cd4:deva 1cd5-1cd6:beng.deva 1cd7:deva.shrd",
  namesRow 0x1cd8 0x1cda "1cd8:beng.deva 1cd9:deva.shrd 1cda:deva.knda.mlym.orya.taml.telu",
  namesRow 0x1cdb 0x1ce0 "1cdb:deva 1cdc-1cdd:deva.shrd 1cde-1cdf:deva 1ce0:deva.shrd",
  namesRow 0x1ce1 0x1cea "1ce1:beng.deva 1ce2-1ce8:deva 1ce9:deva.nand 1cea:beng.deva",
  namesRow 0x1ceb 0x1cf1 "1ceb-1cec:deva 1ced:beng.deva 1cee-1cf1:deva",
  namesRow 0x1cf2 0x1cf2 "1cf2:beng.deva.gran.knda.mlym.nand.orya.sinh.telu.tirh.tutg",
  namesRow 0x1cf3 0x1cf7 "1cf3:deva.gran 1cf4:deva.gran.knda.tutg 1cf5-1cf6:beng.deva 1cf7:beng",
  namesRow 0x1cf8 0x1df8 "1cf8-1cf9:deva.gran 1cfa:nand 1dc0-1dc1:grek 1df8:cyrl.latn.syrc",
  namesRow 0x1dfa 0x204f "1dfa:syrc 202f:latn.mong.phag 204f:adlm.arab",
  namesRow 0x205a 0x205d "205a:cari.geor.glag.hung.lyci.orkh 205d:cari.grek.hung.mero",
  namesRow 0x20f0 0x2e30 "20f0:deva.gran.latn 2e17:copt.latn 2e30:avst.orkh",
  namesRow 0x2e31 0x2e41 "2e31:avst.cari.geor.hung.kthi.lydi.samr 2e3c:dupl 2e41:adlm.arab.hung",
  namesRow 0x2e43 0x2fff "2e43:cyrl.glag 2ff0-2fff:hani.tang",
  namesRow 0x3001 0x3001 "3001:bopo.hang.hani.hira.kana.mong.yiii",
  namesRow 0x3002 0x3002 "3002:bopo.hang.hani.hira.kana.mong.phag.yiii",
  namesRow 0x3003 0x3006 "3003:bopo.hang.hani.hira.kana 3006:hani",
  namesRow 0x3008 0x3009 "3008-3009:bopo.hang.hani.hira.kana.mong.tibt.yiii",
  namesRow 0x300a 0x300b "300a-300b:bopo.hang.hani.hira.kana.lisu.mong.tibt.yiii",
  namesRow 0x300c 0x3013 "300c-3011:bopo.hang.hani.hira.kana.yiii 3013:bopo.hang.hani.hira.kana",
  namesRow 0x3014 0x301b "3014-301b:bopo.hang.hani.hira.kana.yiii",
  namesRow 0x301c 0x302d "301c-301f:bopo.hang.hani.hira.kana 302a-302d:bopo.hani",
  namesRow 0x3030 0x3035 "3030:bopo.hang.hani.hira.kana 3031-3035:hira.kana",
  namesRow 0x3037 0x303f "3037:bopo.hang.hani.hira.kana 303c-303d:hani.hira.kana 303e-303f:hani",
  namesRow 0x3099 0x30fb "3099-309c:hira.kana 30a0:hira.kana 30fb:bopo.hang.hani.hira.kana.yiii",
  namesRow 0x30fc 0x31ef "30fc:hira.kana 3190-319f:hani 31c0-31e5:hani 31ef:hani.tang",
  namesRow 0x3220 0x3370 "3220-3247:hani 3280-32b0:hani 32c0-32cb:hani 32ff:hani 3358-3370:hani",
  namesRow 0x337b 0xa707 "337b-337f:hani 33e0-33fe:hani a66f:cyrl.glag a700-a707:hani.latn",
  namesRow 0xa830 0xa832 "a830-a832:deva.dogr.gujr.guru.khoj.knda.kthi.mahj.mlym.modi.nand.shrd.sind.takr.tirh.tutg",
  namesRow 0xa833 0xa835 "a833-a835:deva.dogr.gujr.guru.khoj.knda.kthi.mahj.modi.nand.shrd.sind.takr.tirh.tutg",
  namesRow 0xa836 0xa837 "a836-a837:deva.dogr.gujr.guru.khoj.kthi.mahj.modi.sind.takr.tirh",
  namesRow 0xa838 0xa838 "a838:deva.dogr.gujr.guru.khoj.kthi.mahj.modi.shrd.sind.takr.tirh",
  namesRow 0xa839 0xa839 "a839:deva.dogr.gujr.guru.khoj.kthi.mahj.modi.sind.takr.tirh",
  namesRow 0xa8f1 0xa9cf "a8f1:beng.deva.tutg a8f3:deva.taml a92e:kali.latn.mymr a9cf:bugi.java",
  namesRow 0xfd3e 0xfdfd "fd3e-fd3f:arab.nkoo fdf2:arab.thaa fdfd:arab.thaa",
  namesRow 0xfe45 0xfe46 "fe45-fe46:bopo.hang.hani.hira.kana",
  namesRow 0xff61 0xff70 "ff61-ff65:bopo.hang.hani.hira.kana.yiii ff70:hira.kana",
  namesRow 0xff9e 0x10102 "ff9e-ff9f:hira.kana 10100-10101:cpmn.cprt.linb 10102:cprt.linb",
  namesRow 0x10107 0x102fb "10107-10133:cprt.lina.linb 10137-1013f:cprt.linb 102e0-102fb:arab.copt",
  namesRow 0x10af2 0x1133c "10af2:mani.ougr 11301:gran.taml 11303:gran.taml 1133b-1133c:gran.taml",
  namesRow 0x11fd0 0x1d371 "11fd0-11fd1:gran.taml 11fd3:gran.taml 1bca0-1bca3:dupl 1d360-1d371:hani",
  namesRow 0x1f250 0x1f251 "1f250-1f251:hani"]

end TextFeatures.Unicode.Script
