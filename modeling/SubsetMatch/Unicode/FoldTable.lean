/-!
# Table of simple case folding

Runs of code points that fold to others at the same distance: the first point, what it folds to, the
number of points and the step from one to the next.
-/

namespace SubsetMatch.Unicode

/-- The runs of points that fold alike. -/
def foldLines : List String := [
  "65:97:26:1 181:956:1:1 192:224:23:1 216:248:7:1 256:257:24:2 306:307:3:2 313:314:8:2",
  "330:331:23:2 376:255:1:1 377:378:3:2 383:115:1:1 385:595:1:1 386:387:2:2 390:596:1:1",
  "391:392:1:1 393:598:2:1 395:396:1:1 398:477:1:1 399:601:1:1 400:603:1:1 401:402:1:1",
  "403:608:1:1 404:611:1:1 406:617:1:1 407:616:1:1 408:409:1:1 412:623:1:1 413:626:1:1",
  "415:629:1:1 416:417:3:2 422:640:1:1 423:424:1:1 425:643:1:1 428:429:1:1 430:648:1:1",
  "431:432:1:1 433:650:2:1 435:436:2:2 439:658:1:1 440:441:1:1 444:445:1:1 452:454:1:1",
  "453:454:1:1 455:457:1:1 456:457:1:1 458:460:1:1 459:460:9:2 478:479:9:2 497:499:1:1",
  "498:499:2:2 502:405:1:1 503:447:1:1 504:505:20:2 544:414:1:1 546:547:9:2 570:11365:1:1",
  "571:572:1:1 573:410:1:1 574:11366:1:1 577:578:1:1 579:384:1:1 580:649:1:1 581:652:1:1",
  "582:583:5:2 837:953:1:1 880:881:2:2 886:887:1:1 895:1011:1:1 902:940:1:1 904:941:3:1",
  "908:972:1:1 910:973:2:1 913:945:17:1 931:963:9:1 962:963:1:1 975:983:1:1 976:946:1:1",
  "977:952:1:1 981:966:1:1 982:960:1:1 984:985:12:2 1008:954:1:1 1009:961:1:1 1012:952:1:1",
  "1013:949:1:1 1015:1016:1:1 1017:1010:1:1 1018:1019:1:1 1021:891:3:1 1024:1104:16:1",
  "1040:1072:32:1 1120:1121:17:2 1162:1163:27:2 1216:1231:1:1 1217:1218:7:2 1232:1233:48:2",
  "1329:1377:38:1 4256:11520:38:1 4295:11559:1:1 4301:11565:1:1 5112:5104:6:1 7296:1074:1:1",
  "7297:1076:1:1 7298:1086:1:1 7299:1089:2:1 7301:1090:1:1 7302:1098:1:1 7303:1123:1:1",
  "7304:42571:1:1 7305:7306:1:1 7312:4304:43:1 7357:4349:3:1 7680:7681:75:2 7835:7777:1:1",
  "7838:223:1:1 7840:7841:48:2 7944:7936:8:1 7960:7952:6:1 7976:7968:8:1 7992:7984:8:1",
  "8008:8000:6:1 8025:8017:4:2 8040:8032:8:1 8072:8064:8:1 8088:8080:8:1 8104:8096:8:1",
  "8120:8112:2:1 8122:8048:2:1 8124:8115:1:1 8126:953:1:1 8136:8050:4:1 8140:8131:1:1",
  "8147:912:1:1 8152:8144:2:1 8154:8054:2:1 8163:944:1:1 8168:8160:2:1 8170:8058:2:1",
  "8172:8165:1:1 8184:8056:2:1 8186:8060:2:1 8188:8179:1:1 8486:969:1:1 8490:107:1:1",
  "8491:229:1:1 8498:8526:1:1 8544:8560:16:1 8579:8580:1:1 9398:9424:26:1 11264:11312:48:1",
  "11360:11361:1:1 11362:619:1:1 11363:7549:1:1 11364:637:1:1 11367:11368:3:2 11373:593:1:1",
  "11374:625:1:1 11375:592:1:1 11376:594:1:1 11378:11379:2:3 11390:575:2:1 11392:11393:50:2",
  "11499:11500:2:2 11506:11507:1:1 42560:42561:23:2 42624:42625:14:2 42786:42787:7:2",
  "42802:42803:31:2 42873:42874:2:2 42877:7545:1:1 42878:42879:5:2 42891:42892:1:1",
  "42893:613:1:1 42896:42897:2:2 42902:42903:10:2 42922:614:1:1 42923:604:1:1 42924:609:1:1",
  "42925:620:1:1 42926:618:1:1 42928:670:1:1 42929:647:1:1 42930:669:1:1 42931:43859:1:1",
  "42932:42933:8:2 42948:42900:1:1 42949:642:1:1 42950:7566:1:1 42951:42952:2:2 42955:612:1:1",
  "42956:42957:1:1 42960:42961:1:1 42966:42967:3:2 42972:411:1:1 42997:42998:1:1",
  "43888:5024:80:1 64261:64262:1:1 65313:65345:26:1 66560:66600:40:1 66736:66776:36:1",
  "66928:66967:11:1 66940:66979:15:1 66956:66995:7:1 66964:67003:2:1 68736:68800:51:1",
  "68944:68976:22:1 71840:71872:32:1 93760:93792:32:1 125184:125218:34:1"]

end SubsetMatch.Unicode
