/-!
Names of shorthand, musical notes, mathematical letters and written gestures.
-/

namespace Wdl
namespace Text
namespace CharName

/-- The names of the characters from U+17000 to U+1DFFF; see `NameBlock.ofText?`. -/
def technical : String := "
@18800 TANGUT /COMPONENT-001;COMPONENT-002;COMPONENT-003;COMPONENT-004;COMPONENT-005;
 COMPONENT-006;COMPONENT-007;COMPONENT-008;COMPONENT-009;COMPONENT-010;COMPONENT-011;
 COMPONENT-012;COMPONENT-013;COMPONENT-014;COMPONENT-015;COMPONENT-016;COMPONENT-017;
 COMPONENT-018;COMPONENT-019;COMPONENT-020;COMPONENT-021;COMPONENT-022;COMPONENT-023;
 COMPONENT-024;COMPONENT-025;COMPONENT-026;COMPONENT-027;COMPONENT-028;COMPONENT-029;
 COMPONENT-030;COMPONENT-031;COMPONENT-032;COMPONENT-033;COMPONENT-034;COMPONENT-035;
 COMPONENT-036;COMPONENT-037;COMPONENT-038;COMPONENT-039;COMPONENT-040;COMPONENT-041;
 COMPONENT-042;COMPONENT-043;COMPONENT-044;COMPONENT-045;COMPONENT-046;COMPONENT-047;
 COMPONENT-048;COMPONENT-049;COMPONENT-050;COMPONENT-051;COMPONENT-052;COMPONENT-053;
 COMPONENT-054;COMPONENT-055;COMPONENT-056;COMPONENT-057;COMPONENT-058;COMPONENT-059;
 COMPONENT-060;COMPONENT-061;COMPONENT-062;COMPONENT-063;COMPONENT-064;COMPONENT-065;
 COMPONENT-066;COMPONENT-067;COMPONENT-068;COMPONENT-069;COMPONENT-070;COMPONENT-071;
 COMPONENT-072;COMPONENT-073;COMPONENT-074;COMPONENT-075;COMPONENT-076;COMPONENT-077;
 COMPONENT-078;COMPONENT-079;COMPONENT-080;COMPONENT-081;COMPONENT-082;COMPONENT-083;
 COMPONENT-084;COMPONENT-085;COMPONENT-086;COMPONENT-087;COMPONENT-088;COMPONENT-089;
 COMPONENT-090;COMPONENT-091;COMPONENT-092;COMPONENT-093;COMPONENT-094;COMPONENT-095;
 COMPONENT-096;COMPONENT-097;COMPONENT-098;COMPONENT-099;COMPONENT-100;COMPONENT-101;
 COMPONENT-102;COMPONENT-103;COMPONENT-104;COMPONENT-105;COMPONENT-106;COMPONENT-107;
 COMPONENT-108;COMPONENT-109;COMPONENT-110;COMPONENT-111;COMPONENT-112;COMPONENT-113;
 COMPONENT-114;COMPONENT-115;COMPONENT-116;COMPONENT-117;COMPONENT-118;COMPONENT-119;
 COMPONENT-120;COMPONENT-121;COMPONENT-122;COMPONENT-123;COMPONENT-124;COMPONENT-125;
 COMPONENT-126;COMPONENT-127;COMPONENT-128;COMPONENT-129;COMPONENT-130;COMPONENT-131;
 COMPONENT-132;COMPONENT-133;COMPONENT-134;COMPONENT-135;COMPONENT-136;COMPONENT-137;
 COMPONENT-138;COMPONENT-139;COMPONENT-140;COMPONENT-141;COMPONENT-142;COMPONENT-143;
 COMPONENT-144;COMPONENT-145;COMPONENT-146;COMPONENT-147;COMPONENT-148;COMPONENT-149;
 COMPONENT-150;COMPONENT-151;COMPONENT-152;COMPONENT-153;COMPONENT-154;COMPONENT-155;
 COMPONENT-156;COMPONENT-157;COMPONENT-158;COMPONENT-159;COMPONENT-160;COMPONENT-161;
 COMPONENT-162;COMPONENT-163;COMPONENT-164;COMPONENT-165;COMPONENT-166;COMPONENT-167;
 COMPONENT-168;COMPONENT-169;COMPONENT-170;COMPONENT-171;COMPONENT-172;COMPONENT-173;
 COMPONENT-174;COMPONENT-175;COMPONENT-176;COMPONENT-177;COMPONENT-178;COMPONENT-179;
 COMPONENT-180;COMPONENT-181;COMPONENT-182;COMPONENT-183;COMPONENT-184;COMPONENT-185;
 COMPONENT-186;COMPONENT-187;COMPONENT-188;COMPONENT-189;COMPONENT-190;COMPONENT-191;
 COMPONENT-192;COMPONENT-193;COMPONENT-194;COMPONENT-195;COMPONENT-196;COMPONENT-197;
 COMPONENT-198;COMPONENT-199;COMPONENT-200;COMPONENT-201;COMPONENT-202;COMPONENT-203;
 COMPONENT-204;COMPONENT-205;COMPONENT-206;COMPONENT-207;COMPONENT-208;COMPONENT-209;
 COMPONENT-210;COMPONENT-211;COMPONENT-212;COMPONENT-213;COMPONENT-214;COMPONENT-215;
 COMPONENT-216;COMPONENT-217;COMPONENT-218;COMPONENT-219;COMPONENT-220;COMPONENT-221;
 COMPONENT-222;COMPONENT-223;COMPONENT-224;COMPONENT-225;COMPONENT-226;COMPONENT-227;
 COMPONENT-228;COMPONENT-229;COMPONENT-230;COMPONENT-231;COMPONENT-232;COMPONENT-233;
 COMPONENT-234;COMPONENT-235;COMPONENT-236;COMPONENT-237;COMPONENT-238;COMPONENT-239;
 COMPONENT-240;COMPONENT-241;COMPONENT-242;COMPONENT-243;COMPONENT-244;COMPONENT-245;
 COMPONENT-246;COMPONENT-247;COMPONENT-248;COMPONENT-249;COMPONENT-250;COMPONENT-251;
 COMPONENT-252;COMPONENT-253;COMPONENT-254;COMPONENT-255;COMPONENT-256;COMPONENT-257;
 COMPONENT-258;COMPONENT-259;COMPONENT-260;COMPONENT-261;COMPONENT-262;COMPONENT-263;
 COMPONENT-264;COMPONENT-265;COMPONENT-266;COMPONENT-267;COMPONENT-268;COMPONENT-269;
 COMPONENT-270;COMPONENT-271;COMPONENT-272;COMPONENT-273;COMPONENT-274;COMPONENT-275;
 COMPONENT-276;COMPONENT-277;COMPONENT-278;COMPONENT-279;COMPONENT-280;COMPONENT-281;
 COMPONENT-282;COMPONENT-283;COMPONENT-284;COMPONENT-285;COMPONENT-286;COMPONENT-287;
 COMPONENT-288;COMPONENT-289;COMPONENT-290;COMPONENT-291;COMPONENT-292;COMPONENT-293;
 COMPONENT-294;COMPONENT-295;COMPONENT-296;COMPONENT-297;COMPONENT-298;COMPONENT-299;
 COMPONENT-300;COMPONENT-301;COMPONENT-302;COMPONENT-303;COMPONENT-304;COMPONENT-305;
 COMPONENT-306;COMPONENT-307;COMPONENT-308;COMPONENT-309;COMPONENT-310;COMPONENT-311;
 COMPONENT-312;COMPONENT-313;COMPONENT-314;COMPONENT-315;COMPONENT-316;COMPONENT-317;
 COMPONENT-318;COMPONENT-319;COMPONENT-320;COMPONENT-321;COMPONENT-322;COMPONENT-323;
 COMPONENT-324;COMPONENT-325;COMPONENT-326;COMPONENT-327;COMPONENT-328;COMPONENT-329;
 COMPONENT-330;COMPONENT-331;COMPONENT-332;COMPONENT-333;COMPONENT-334;COMPONENT-335;
 COMPONENT-336;COMPONENT-337;COMPONENT-338;COMPONENT-339;COMPONENT-340;COMPONENT-341;
 COMPONENT-342;COMPONENT-343;COMPONENT-344;COMPONENT-345;COMPONENT-346;COMPONENT-347;
 COMPONENT-348;COMPONENT-349;COMPONENT-350;COMPONENT-351;COMPONENT-352;COMPONENT-353;
 COMPONENT-354;COMPONENT-355;COMPONENT-356;COMPONENT-357;COMPONENT-358;COMPONENT-359;
 COMPONENT-360;COMPONENT-361;COMPONENT-362;COMPONENT-363;COMPONENT-364;COMPONENT-365;
 COMPONENT-366;COMPONENT-367;COMPONENT-368
@18970 TANGUT /COMPONENT-369;COMPONENT-370;COMPONENT-371;COMPONENT-372;COMPONENT-373;
 COMPONENT-374;COMPONENT-375;COMPONENT-376;COMPONENT-377;COMPONENT-378;COMPONENT-379;
 COMPONENT-380;COMPONENT-381;COMPONENT-382;COMPONENT-383;COMPONENT-384;COMPONENT-385;
 COMPONENT-386;COMPONENT-387;COMPONENT-388;COMPONENT-389;COMPONENT-390;COMPONENT-391;
 COMPONENT-392;COMPONENT-393;COMPONENT-394;COMPONENT-395;COMPONENT-396;COMPONENT-397;
 COMPONENT-398;COMPONENT-399;COMPONENT-400;COMPONENT-401;COMPONENT-402;COMPONENT-403;
 COMPONENT-404;COMPONENT-405;COMPONENT-406;COMPONENT-407;COMPONENT-408;COMPONENT-409;
 COMPONENT-410;COMPONENT-411;COMPONENT-412;COMPONENT-413;COMPONENT-414;COMPONENT-415;
 COMPONENT-416;COMPONENT-417;COMPONENT-418;COMPONENT-419;COMPONENT-420;COMPONENT-421;
 COMPONENT-422;COMPONENT-423;COMPONENT-424;COMPONENT-425;COMPONENT-426;COMPONENT-427;
 COMPONENT-428;COMPONENT-429;COMPONENT-430;COMPONENT-431;COMPONENT-432;COMPONENT-433;
 COMPONENT-434;COMPONENT-435;COMPONENT-436;COMPONENT-437;COMPONENT-438;COMPONENT-439;
 COMPONENT-440;COMPONENT-441;COMPONENT-442;COMPONENT-443;COMPONENT-444;COMPONENT-445;
 COMPONENT-446;COMPONENT-447;COMPONENT-448;COMPONENT-449;COMPONENT-450;COMPONENT-451;
 COMPONENT-452;COMPONENT-453;COMPONENT-454;COMPONENT-455;COMPONENT-456;COMPONENT-457;
 COMPONENT-458;COMPONENT-459;COMPONENT-460;COMPONENT-461;COMPONENT-462;COMPONENT-463;
 COMPONENT-464;COMPONENT-465;COMPONENT-466;COMPONENT-467;COMPONENT-468;COMPONENT-469;
 COMPONENT-470;COMPONENT-471;COMPONENT-472;COMPONENT-473;COMPONENT-474;COMPONENT-475;
 COMPONENT-476;COMPONENT-477;COMPONENT-478;COMPONENT-479;COMPONENT-480;COMPONENT-481;
 COMPONENT-482;COMPONENT-483;COMPONENT-484;COMPONENT-485;COMPONENT-486;COMPONENT-487;
 COMPONENT-488;COMPONENT-489;COMPONENT-490;COMPONENT-491;COMPONENT-492;COMPONENT-493;
 COMPONENT-494;COMPONENT-495;COMPONENT-496;COMPONENT-497;COMPONENT-498;COMPONENT-499;
 COMPONENT-500;COMPONENT-501;COMPONENT-502;COMPONENT-503;COMPONENT-504;COMPONENT-505;
 COMPONENT-506;COMPONENT-507;COMPONENT-508;COMPONENT-509;COMPONENT-510;COMPONENT-511;
 COMPONENT-512;COMPONENT-513;COMPONENT-514;COMPONENT-515;COMPONENT-516;COMPONENT-517;
 COMPONENT-518;COMPONENT-519;COMPONENT-520;COMPONENT-521;COMPONENT-522;COMPONENT-523;
 COMPONENT-524;COMPONENT-525;COMPONENT-526;COMPONENT-527;COMPONENT-528;COMPONENT-529;
 COMPONENT-530;COMPONENT-531;COMPONENT-532;COMPONENT-533;COMPONENT-534;COMPONENT-535;
 COMPONENT-536;COMPONENT-537;COMPONENT-538;COMPONENT-539;COMPONENT-540;COMPONENT-541;
 COMPONENT-542;COMPONENT-543;COMPONENT-544;COMPONENT-545;COMPONENT-546;COMPONENT-547;
 COMPONENT-548;COMPONENT-549;COMPONENT-550;COMPONENT-551;COMPONENT-552;COMPONENT-553;
 COMPONENT-554;COMPONENT-555;COMPONENT-556;COMPONENT-557;COMPONENT-558;COMPONENT-559;
 COMPONENT-560;COMPONENT-561;COMPONENT-562;COMPONENT-563;COMPONENT-564;COMPONENT-565;
 COMPONENT-566;COMPONENT-567;COMPONENT-568;COMPONENT-569;COMPONENT-570;COMPONENT-571;
 COMPONENT-572;COMPONENT-573;COMPONENT-574;COMPONENT-575;COMPONENT-576;COMPONENT-577;
 COMPONENT-578;COMPONENT-579;COMPONENT-580;COMPONENT-581;COMPONENT-582;COMPONENT-583;
 COMPONENT-584;COMPONENT-585;COMPONENT-586;COMPONENT-587;COMPONENT-588;COMPONENT-589;
 COMPONENT-590;COMPONENT-591;COMPONENT-592;COMPONENT-593;COMPONENT-594;COMPONENT-595;
 COMPONENT-596;COMPONENT-597;COMPONENT-598;COMPONENT-599;COMPONENT-600;COMPONENT-601;
 COMPONENT-602;COMPONENT-603;COMPONENT-604;COMPONENT-605;COMPONENT-606;COMPONENT-607;
 COMPONENT-608;COMPONENT-609;COMPONENT-610;COMPONENT-611;COMPONENT-612;COMPONENT-613;
 COMPONENT-614;COMPONENT-615;COMPONENT-616;COMPONENT-617;COMPONENT-618;COMPONENT-619;
 COMPONENT-620;COMPONENT-621;COMPONENT-622;COMPONENT-623;COMPONENT-624;COMPONENT-625;
 COMPONENT-626;COMPONENT-627;COMPONENT-628;COMPONENT-629;COMPONENT-630;COMPONENT-631;
 COMPONENT-632;COMPONENT-633;COMPONENT-634;COMPONENT-635;COMPONENT-636;COMPONENT-637;
 COMPONENT-638;COMPONENT-639;COMPONENT-640;COMPONENT-641;COMPONENT-642;COMPONENT-643;
 COMPONENT-644;COMPONENT-645;COMPONENT-646;COMPONENT-647;COMPONENT-648;COMPONENT-649;
 COMPONENT-650;COMPONENT-651;COMPONENT-652;COMPONENT-653;COMPONENT-654;COMPONENT-655;
 COMPONENT-656;COMPONENT-657;COMPONENT-658;COMPONENT-659;COMPONENT-660;COMPONENT-661;
 COMPONENT-662;COMPONENT-663;COMPONENT-664;COMPONENT-665;COMPONENT-666;COMPONENT-667;
 COMPONENT-668;COMPONENT-669;COMPONENT-670;COMPONENT-671;COMPONENT-672;COMPONENT-673;
 COMPONENT-674;COMPONENT-675;COMPONENT-676;COMPONENT-677;COMPONENT-678;COMPONENT-679;
 COMPONENT-680;COMPONENT-681;COMPONENT-682;COMPONENT-683;COMPONENT-684;COMPONENT-685;
 COMPONENT-686;COMPONENT-687;COMPONENT-688;COMPONENT-689;COMPONENT-690;COMPONENT-691;
 COMPONENT-692;COMPONENT-693;COMPONENT-694;COMPONENT-695;COMPONENT-696;COMPONENT-697;
 COMPONENT-698;COMPONENT-699;COMPONENT-700;COMPONENT-701;COMPONENT-702;COMPONENT-703;
 COMPONENT-704;COMPONENT-705;COMPONENT-706;COMPONENT-707;COMPONENT-708;COMPONENT-709;
 COMPONENT-710;COMPONENT-711;COMPONENT-712;COMPONENT-713;COMPONENT-714;COMPONENT-715;
 COMPONENT-716;COMPONENT-717;COMPONENT-718;COMPONENT-719;COMPONENT-720;COMPONENT-721;
 COMPONENT-722;COMPONENT-723;COMPONENT-724;COMPONENT-725;COMPONENT-726;COMPONENT-727;
 COMPONENT-728;COMPONENT-729;COMPONENT-730;COMPONENT-731;COMPONENT-732;COMPONENT-733;
 COMPONENT-734;COMPONENT-735;COMPONENT-736;COMPONENT-737;COMPONENT-738;COMPONENT-739;
 COMPONENT-740;COMPONENT-741;COMPONENT-742;COMPONENT-743;COMPONENT-744;COMPONENT-745;
 COMPONENT-746;COMPONENT-747;COMPONENT-748;COMPONENT-749;COMPONENT-750;COMPONENT-751;
 COMPONENT-752;COMPONENT-753;COMPONENT-754;COMPONENT-755;COMPONENT-756;COMPONENT-757;
 COMPONENT-758;COMPONENT-759;COMPONENT-760;COMPONENT-761;COMPONENT-762;COMPONENT-763;
 COMPONENT-764;COMPONENT-765;COMPONENT-766;COMPONENT-767;COMPONENT-768
@1AFF0 KATAKANA LETTER MINNAN /TONE-2;TONE-3;TONE-4;TONE-5
@1AFF5 KATAKANA LETTER MINNAN /TONE-7;TONE-8
@1AFF7 KATAKANA LETTER MINNAN NASALIZED /TONE-1;TONE-2;TONE-3;TONE-4;TONE-5
@1AFFD KATAKANA LETTER MINNAN NASALIZED /TONE-7;TONE-8
@1B000 /KATAKANA LETTER ARCHAIC E;HIRAGANA LETTER ARCHAIC YE
@1B002 HENTAIGANA LETTER /A-1;A-2;A-3;A-WO;I-1;I-2;I-3;I-4;U-1;U-2;U-3;U-4;U-5;E-2;E-3;E-4;E-5;
 E-6;O-1;O-2;O-3;KA-1;KA-2;KA-3;KA-4;KA-5;KA-6;KA-7;KA-8;KA-9;KA-10;KA-11;KA-KE;KI-1;KI-2;KI-3;
 KI-4;KI-5;KI-6;KI-7;KI-8;KU-1;KU-2;KU-3;KU-4;KU-5;KU-6;KU-7;KE-1;KE-2;KE-3;KE-4;KE-5;KE-6;KO-1;
 KO-2;KO-3;KO-KI;SA-1;SA-2;SA-3;SA-4;SA-5;SA-6;SA-7;SA-8;SI-1;SI-2;SI-3;SI-4;SI-5;SI-6;SU-1;SU-2;
 SU-3;SU-4;SU-5;SU-6;SU-7;SU-8;SE-1;SE-2;SE-3;SE-4;SE-5;SO-1;SO-2;SO-3;SO-4;SO-5;SO-6;SO-7;TA-1;
 TA-2;TA-3;TA-4;TI-1;TI-2;TI-3;TI-4;TI-5;TI-6;TI-7;TU-1;TU-2;TU-3;TU-4;TU-TO;TE-1;TE-2;TE-3;TE-4;
 TE-5;TE-6;TE-7;TE-8;TE-9;TO-1;TO-2;TO-3;TO-4;TO-5;TO-6;TO-RA;NA-1;NA-2;NA-3;NA-4;NA-5;NA-6;NA-7;
 NA-8;NA-9;NI-1;NI-2;NI-3;NI-4;NI-5;NI-6;NI-7;NI-TE;NU-1;NU-2;NU-3;NE-1;NE-2;NE-3;NE-4;NE-5;NE-6;
 NE-KO;NO-1;NO-2;NO-3;NO-4;NO-5;HA-1;HA-2;HA-3;HA-4;HA-5;HA-6;HA-7;HA-8;HA-9;HA-10;HA-11;HI-1;
 HI-2;HI-3;HI-4;HI-5;HI-6;HI-7;HU-1;HU-2;HU-3;HE-1;HE-2;HE-3;HE-4;HE-5;HE-6;HE-7;HO-1;HO-2;HO-3;
 HO-4;HO-5;HO-6;HO-7;HO-8;MA-1;MA-2;MA-3;MA-4;MA-5;MA-6;MA-7;MI-1;MI-2;MI-3;MI-4;MI-5;MI-6;MI-7;
 MU-1;MU-2;MU-3;MU-4;ME-1;ME-2;ME-MA;MO-1;MO-2;MO-3;MO-4;MO-5;MO-6;YA-1;YA-2;YA-3;YA-4;YA-5;YA-YO;
 YU-1;YU-2;YU-3;YU-4;YO-1;YO-2;YO-3;YO-4;YO-5;YO-6;RA-1;RA-2;RA-3;RA-4;RI-1;RI-2;RI-3;RI-4;RI-5;
 RI-6;RI-7;RU-1;RU-2;RU-3;RU-4;RU-5;RU-6;RE-1;RE-2;RE-3;RE-4;RO-1;RO-2;RO-3;RO-4;RO-5;RO-6;WA-1;
 WA-2;WA-3;WA-4;WA-5;WI-1;WI-2;WI-3;WI-4;WI-5;WE-1;WE-2;WE-3;WE-4;WO-1;WO-2;WO-3;WO-4;WO-5;WO-6;
 WO-7;N-MU-MO-1;N-MU-MO-2
@1B11F HIRAGANA LETTER ARCHAIC /WU
@1B120 KATAKANA LETTER ARCHAIC /YI;YE;WU
@1B150 HIRAGANA LETTER SMALL /WI;WE;WO
@1B164 KATAKANA LETTER SMALL /WI;WE;WO;N
@1BC00 DUPLOYAN LETTER /H;X;P;T;F;K;L;B;D;V;G;R;P N;D S;F N;K M;R S;TH;SLOAN DH;DH;KK;SLOAN J;HL;
 LH;RH;M;N;J;S;M N;N M;J M;S J;M WITH DOT;N WITH DOT;J WITH DOT;J WITH DOTS INSIDE AND ABOVE;
 S WITH DOT;S WITH DOT BELOW;M S;N S;J S;S S;M N S;N M S;J M S;S J S;J S WITH DOT;J N;J N S;S T;
 S T R;S P;S P R;T S;T R S;W;WH;W R;S N;S M;K R S;G R S;S K;S K R;A;SLOAN OW;OA;O;AOU;I;E;IE;
 SHORT I;UI;EE;SLOAN EH;ROMANIAN I;SLOAN EE;LONG I;YE;U;EU;XW;U N;LONG U;ROMANIAN U;UH;SLOAN U;
 OOH;OW;OU;WA;WO;WI;WEI;WOW;NASAL U;NASAL O;NASAL I;NASAL A;PERNIN AN;PERNIN AM;SLOAN EN;SLOAN AN;
 SLOAN ON;VOCALIC M
@1BC70 DUPLOYAN AFFIX /LEFT HORIZONTAL SECANT;MID HORIZONTAL SECANT;RIGHT HORIZONTAL SECANT;
 LOW VERTICAL SECANT;MID VERTICAL SECANT;HIGH VERTICAL SECANT
@1BC76 DUPLOYAN AFFIX ATTACHED /SECANT;LEFT-TO-RIGHT SECANT;TANGENT;TAIL;E HOOK;I HOOK;
 TANGENT HOOK
@1BC80 DUPLOYAN AFFIX HIGH /ACUTE;TIGHT ACUTE;GRAVE;LONG GRAVE;DOT;CIRCLE;LINE;WAVE;VERTICAL
@1BC90 DUPLOYAN AFFIX LOW /ACUTE;TIGHT ACUTE;GRAVE;LONG GRAVE;DOT;CIRCLE;LINE;WAVE;VERTICAL;ARROW
@1BC9C DUPLOYAN /SIGN O WITH CROSS;THICK LETTER SELECTOR;DOUBLE MARK;PUNCTUATION CHINOOK FULL STOP
@1BCA0 SHORTHAND FORMAT /LETTER OVERLAP;CONTINUING OVERLAP;DOWN STEP;UP STEP
@1CF00 ZNAMENNY COMBINING MARK /GORAZDO NIZKO S KRYZHEM ON LEFT;NIZKO S KRYZHEM ON LEFT;
 TSATA ON LEFT;GORAZDO NIZKO ON LEFT;NIZKO ON LEFT;SREDNE ON LEFT;MALO POVYSHE ON LEFT;
 POVYSHE ON LEFT;VYSOKO ON LEFT;MALO POVYSHE S KHOKHLOM ON LEFT;POVYSHE S KHOKHLOM ON LEFT;
 VYSOKO S KHOKHLOM ON LEFT;GORAZDO NIZKO S KRYZHEM ON RIGHT;NIZKO S KRYZHEM ON RIGHT;
 TSATA ON RIGHT;GORAZDO NIZKO ON RIGHT;NIZKO ON RIGHT;SREDNE ON RIGHT;MALO POVYSHE ON RIGHT;
 POVYSHE ON RIGHT;VYSOKO ON RIGHT;MALO POVYSHE S KHOKHLOM ON RIGHT;POVYSHE S KHOKHLOM ON RIGHT;
 VYSOKO S KHOKHLOM ON RIGHT;TSATA S KRYZHEM;MALO POVYSHE S KRYZHEM;STRANNO MALO POVYSHE;
 POVYSHE S KRYZHEM;POVYSHE STRANNO;VYSOKO S KRYZHEM;MALO POVYSHE STRANNO;GORAZDO VYSOKO;ZELO;ON;
 RAVNO;TIKHAYA;BORZAYA;UDARKA;PODVERTKA;LOMKA;KUPNAYA;KACHKA;ZEVOK;SKOBA;RAZSEKA;KRYZH ON LEFT
@1CF30 ZNAMENNY COMBINING TONAL RANGE MARK /MRACHNO;SVETLO;TRESVETLO
@1CF33 ZNAMENNY COMBINING MARK /ZADERZHKA;DEMESTVENNY ZADERZHKA;OTSECHKA;PODCHASHIE;
 PODCHASHIE WITH VERTICAL STROKE;CHASHKA;CHASHKA POLNAYA;OBLACHKO;SOROCHYA NOZHKA;TOCHKA;
 DVOETOCHIE
@1CF3E ZNAMENNY COMBINING /ATTACHING VERTICAL OMET;MARK CURVED OMET;MARK KRYZH;
 LOWER TONAL RANGE INDICATOR
@1CF42 ZNAMENNY PRIZNAK MODIFIER /LEVEL-2;LEVEL-3;DIRECTION FLIP;KRYZH;ROG
@1CF50 ZNAMENNY NEUME /KRYUK;KRYUK TIKHY;PARAKLIT;DVA V CHELNU;KLYUCH;ZANOZHEK;STOPITSA;
 STOPITSA S OCHKOM;PEREVODKA;PEREVODKA NEPOSTOYANNAYA;STOPITSA WITH SOROCHYA NOZHKA;CHELYUSTKA;
 PALKA;ZAPYATAYA
@1CF5E ZNAMENNY NEUME GOLUBCHIK /BORZY;TIKHY;MRACHNY;SVETLY;TRESVETLY
@1CF63 ZNAMENNY NEUME VRAKHIYA /PROSTAYA;MRACHNAYA;SVETLAYA;TRESVETLAYA
@1CF67 ZNAMENNY NEUME VRAKHIYA KLYUCHEVAYA /PROSTAYA;MRACHNAYA;SVETLAYA;TRESVETLAYA
@1CF6B ZNAMENNY NEUME /DOUBLE ZAPYATAYA;REVERSED CHELYUSTKA;DERBITSA;KHAMILO;CHASHKA;PODCHASHIE;
 SKAMEYTSA MRACHNAYA;SKAMEYTSA SVETLAYA;SKAMEYTSA TRESVETLAYA;SKAMEYTSA TIKHAYA;
 DEMESTVENNY KLYUCH;SKAMEYTSA KLYUCHEVAYA SVETLAYA;SKAMEYTSA KLYUCHENEPOSTOYANNAYA;
 SKAMEYTSA KLYUCHEVAYA TIKHAYA
@1CF79 ZNAMENNY NEUME SKAMEYTSA DVOECHELNAYA /PROSTAYA;SVETLAYA;NEPOSTOYANNAYA;KLYUCHEVAYA
@1CF7D ZNAMENNY NEUME /SLOZHITIE;SLOZHITIE S ZAPYATOY;SLOZHITIE ZAKRYTOE;SLOZHITIE S KRYZHEM;
 KRYZH;ROG;FITA;KOBYLA;ZMEYTSA;STATYA
@1CF87 ZNAMENNY NEUME STATYA /S ZAPYATOY;S KRYZHEM;S ZAPYATOY I KRYZHEM;S KRYZHEM I ZAPYATOY;
 ZAKRYTAYA;ZAKRYTAYA S ZAPYATOY;S ROGOM;S DVUMYA ZAPYATYMI;S ZAPYATOY I PODCHASHIEM
@1CF90 ZNAMENNY NEUME /POLKULIZMY;STATYA NEPOSTOYANNAYA
@1CF92 ZNAMENNY NEUME STRELA /PROSTAYA;MRACHNOTIKHAYA;KRYZHEVAYA;POLUPOVODNAYA;POVODNAYA;
 NEPOSTOYANNAYA;KLYUCHEPOVODNAYA;KLYUCHENEPOSTOYANNAYA;TIKHAYA PUTNAYA;DVOECHELNAYA;
 DVOECHELNOKRYZHEVAYA;DVOECHELNOPOVODNAYA;DVOECHELNAYA KLYUCHEVAYA;
 DVOECHELNOPOVODNAYA KLYUCHEVAYA;GROMNAYA WITH SINGLE ZAPYATAYA;
 GROMOPOVODNAYA WITH SINGLE ZAPYATAYA;GROMNAYA;GROMOPOVODNAYA;
 GROMOPOVODNAYA WITH DOUBLE ZAPYATAYA;GROMOKRYZHEVAYA;GROMOKRYZHEVAYA POVODNAYA
@1CFA7 ZNAMENNY NEUME /MECHIK;MECHIK POVODNY;MECHIK KLYUCHEVOY;MECHIK KLYUCHEPOVODNY;
 MECHIK KLYUCHENEPOSTOYANNY;STRELA TRYASOGLASNAYA;STRELA TRYASOPOVODNAYA;STRELA TRYASOSTRELNAYA;
 OSOKA;OSOKA SVETLAYA;OSOKA TRESVETLAYA;OSOKA KRYUKOVAYA SVETLAYA;OSOKA KLYUCHEVAYA SVETLAYA;
 OSOKA KLYUCHEVAYA NEPOSTOYANNAYA;STRELA KRYUKOVAYA
@1CFB6 ZNAMENNY NEUME STRELA KRYUKOVAYA /POVODNAYA;GROMNAYA WITH SINGLE ZAPYATAYA;
 GROMOPOVODNAYA WITH SINGLE ZAPYATAYA;GROMNAYA;GROMOPOVODNAYA;
 GROMOPOVODNAYA WITH DOUBLE ZAPYATAYA;GROMOKRYZHEVAYA;GROMOKRYZHEVAYA POVODNAYA;TRYASKA
@1CFBF ZNAMENNY NEUME /KUFISMA;OBLAKO;DUDA;NEMKA;PAUK
@1D000 BYZANTINE MUSICAL SYMBOL /PSILI;DASEIA;PERISPOMENI;OXEIA EKFONITIKON;OXEIA DIPLI;
 VAREIA EKFONITIKON;VAREIA DIPLI;KATHISTI;SYRMATIKI;PARAKLITIKI;YPOKRISIS;YPOKRISIS DIPLI;
 KREMASTI;APESO EKFONITIKON;EXO EKFONITIKON;TELEIA;KENTIMATA;APOSTROFOS;APOSTROFOS DIPLI;SYNEVMA;
 THITA;OLIGON ARCHAION;GORGON ARCHAION;PSILON;CHAMILON;VATHY;ISON ARCHAION;KENTIMA ARCHAION;
 KENTIMATA ARCHAION;SAXIMATA;PARICHON;STAVROS APODEXIA;OXEIAI ARCHAION;VAREIAI ARCHAION;
 APODERMA ARCHAION;APOTHEMA;KLASMA;REVMA;PIASMA ARCHAION;TINAGMA;ANATRICHISMA;SEISMA;
 SYNAGMA ARCHAION;SYNAGMA META STAVROU;OYRANISMA ARCHAION;THEMA;LEMOI;DYO;TRIA;TESSERA;KRATIMATA;
 APESO EXO NEO;FTHORA ARCHAION;IMIFTHORA;TROMIKON ARCHAION;KATAVA TROMIKON;PELASTON;PSIFISTON;
 KONTEVMA;CHOREVMA ARCHAION;RAPISMA;PARAKALESMA ARCHAION;PARAKLITIKI ARCHAION;ICHADIN;NANA;
 PETASMA;KONTEVMA ALLO;TROMIKON ALLO;STRAGGISMATA;GRONTHISMATA;ISON NEO;OLIGON NEO;OXEIA NEO;
 PETASTI;KOUFISMA;PETASTOKOUFISMA;KRATIMOKOUFISMA;PELASTON NEO;KENTIMATA NEO ANO;KENTIMA NEO ANO;
 YPSILI;APOSTROFOS NEO;APOSTROFOI SYNDESMOS NEO;YPORROI;KRATIMOYPORROON;ELAFRON;CHAMILI;
 MIKRON ISON;VAREIA NEO;PIASMA NEO;PSIFISTON NEO;OMALON;ANTIKENOMA;LYGISMA;PARAKLITIKI NEO;
 PARAKALESMA NEO;ETERON PARAKALESMA;KYLISMA;ANTIKENOKYLISMA;TROMIKON NEO;EKSTREPTON;SYNAGMA NEO;
 SYRMA;CHOREVMA NEO;EPEGERMA;SEISMA NEO;XIRON KLASMA;TROMIKOPSIFISTON;PSIFISTOLYGISMA;
 TROMIKOLYGISMA;TROMIKOPARAKALESMA;PSIFISTOPARAKALESMA;TROMIKOSYNAGMA;PSIFISTOSYNAGMA;
 GORGOSYNTHETON;ARGOSYNTHETON;ETERON ARGOSYNTHETON;OYRANISMA NEO;THEMATISMOS ESO;THEMATISMOS EXO;
 THEMA APLOUN;THES KAI APOTHES;KATAVASMA;ENDOFONON;YFEN KATO;YFEN ANO;STAVROS;KLASMA ANO;
 DIPLI ARCHAION;KRATIMA ARCHAION;KRATIMA ALLO;KRATIMA NEO;APODERMA NEO;APLI;DIPLI;TRIPLI;TETRAPLI;
 KORONIS;LEIMMA ENOS CHRONOU;LEIMMA DYO CHRONON;LEIMMA TRION CHRONON;LEIMMA TESSARON CHRONON;
 LEIMMA IMISEOS CHRONOU;GORGON NEO ANO;GORGON PARESTIGMENON ARISTERA;GORGON PARESTIGMENON DEXIA;
 DIGORGON;DIGORGON PARESTIGMENON ARISTERA KATO;DIGORGON PARESTIGMENON ARISTERA ANO;
 DIGORGON PARESTIGMENON DEXIA;TRIGORGON;ARGON;IMIDIARGON;DIARGON
@1D09A BYZANTINE MUSICAL SYMBOL AGOGI /POLI ARGI;ARGOTERI;ARGI;METRIA;MESI;GORGI;GORGOTERI;
 POLI GORGI
@1D0A2 BYZANTINE MUSICAL SYMBOL MARTYRIA /PROTOS ICHOS;ALLI PROTOS ICHOS;DEYTEROS ICHOS;
 ALLI DEYTEROS ICHOS;TRITOS ICHOS;TRIFONIAS;TETARTOS ICHOS;TETARTOS LEGETOS ICHOS;LEGETOS ICHOS;
 PLAGIOS ICHOS
@1D0AC BYZANTINE MUSICAL SYMBOL /ISAKIA TELOUS ICHIMATOS;APOSTROFOI TELOUS ICHIMATOS;
 FANEROSIS TETRAFONIAS;FANEROSIS MONOFONIAS;FANEROSIS DIFONIAS;MARTYRIA VARYS ICHOS;
 MARTYRIA PROTOVARYS ICHOS;MARTYRIA PLAGIOS TETARTOS ICHOS;GORTHMIKON N APLOUN;
 GORTHMIKON N DIPLOUN;ENARXIS KAI FTHORA VOU;IMIFONON;IMIFTHORON
@1D0B9 BYZANTINE MUSICAL SYMBOL FTHORA /ARCHAION DEYTEROU ICHOU;DIATONIKI PA;DIATONIKI NANA;
 NAOS ICHOS;DIATONIKI DI;SKLIRON DIATONON DI;DIATONIKI KE;DIATONIKI ZO;DIATONIKI NI KATO;
 DIATONIKI NI ANO;MALAKON CHROMA DIFONIAS;MALAKON CHROMA MONOFONIAS
@1D0C5 BYZANTINE MUSICAL SYMBOL /FHTORA SKLIRON CHROMA VASIS;FTHORA SKLIRON CHROMA SYNAFI;
 FTHORA NENANO;CHROA ZYGOS;CHROA KLITON;CHROA SPATHI;FTHORA I YFESIS TETARTIMORION;
 FTHORA ENARMONIOS ANTIFONIA;YFESIS TRITIMORION;DIESIS TRITIMORION;DIESIS TETARTIMORION;
 DIESIS APLI DYO DODEKATA;DIESIS MONOGRAMMOS TESSERA DODEKATA;DIESIS DIGRAMMOS EX DODEKATA;
 DIESIS TRIGRAMMOS OKTO DODEKATA;YFESIS APLI DYO DODEKATA;YFESIS MONOGRAMMOS TESSERA DODEKATA;
 YFESIS DIGRAMMOS EX DODEKATA;YFESIS TRIGRAMMOS OKTO DODEKATA;GENIKI DIESIS;GENIKI YFESIS;
 DIASTOLI APLI MIKRI;DIASTOLI APLI MEGALI;DIASTOLI DIPLI;DIASTOLI THESEOS;SIMANSIS THESEOS;
 SIMANSIS THESEOS DISIMOU;SIMANSIS THESEOS TRISIMOU;SIMANSIS THESEOS TETRASIMOU;SIMANSIS ARSEOS;
 SIMANSIS ARSEOS DISIMOU;SIMANSIS ARSEOS TRISIMOU;SIMANSIS ARSEOS TETRASIMOU;DIGRAMMA GG;
 DIFTOGGOS OU;STIGMA;ARKTIKO PA;ARKTIKO VOU;ARKTIKO GA;ARKTIKO DI;ARKTIKO KE;ARKTIKO ZO;
 ARKTIKO NI;KENTIMATA NEO MESO;KENTIMA NEO MESO;KENTIMATA NEO KATO;KENTIMA NEO KATO;KLASMA KATO;
 GORGON NEO KATO
@1D100 MUSICAL SYMBOL /SINGLE BARLINE;DOUBLE BARLINE;FINAL BARLINE;REVERSE FINAL BARLINE;
 DASHED BARLINE;SHORT BARLINE;LEFT REPEAT SIGN;RIGHT REPEAT SIGN;REPEAT DOTS;DAL SEGNO;DA CAPO;
 SEGNO;CODA;REPEATED FIGURE-1;REPEATED FIGURE-2;REPEATED FIGURE-3;FERMATA;FERMATA BELOW;
 BREATH MARK;CAESURA;BRACE;BRACKET;ONE-LINE STAFF;TWO-LINE STAFF;THREE-LINE STAFF;FOUR-LINE STAFF;
 FIVE-LINE STAFF;SIX-LINE STAFF;SIX-STRING FRETBOARD;FOUR-STRING FRETBOARD;G CLEF;
 G CLEF OTTAVA ALTA;G CLEF OTTAVA BASSA;C CLEF;F CLEF;F CLEF OTTAVA ALTA;F CLEF OTTAVA BASSA;
 DRUM CLEF-1;DRUM CLEF-2
@1D129 MUSICAL SYMBOL /MULTIPLE MEASURE REST;DOUBLE SHARP;DOUBLE FLAT;FLAT UP;FLAT DOWN;
 NATURAL UP;NATURAL DOWN;SHARP UP;SHARP DOWN;QUARTER TONE SHARP;QUARTER TONE FLAT;COMMON TIME;
 CUT TIME;OTTAVA ALTA;OTTAVA BASSA;QUINDICESIMA ALTA;QUINDICESIMA BASSA;MULTI REST;WHOLE REST;
 HALF REST;QUARTER REST;EIGHTH REST;SIXTEENTH REST;THIRTY-SECOND REST;SIXTY-FOURTH REST;
 ONE HUNDRED TWENTY-EIGHTH REST;X NOTEHEAD;PLUS NOTEHEAD;CIRCLE X NOTEHEAD;SQUARE NOTEHEAD WHITE;
 SQUARE NOTEHEAD BLACK
@1D148 MUSICAL SYMBOL TRIANGLE NOTEHEAD /UP WHITE;UP BLACK;LEFT WHITE;LEFT BLACK;RIGHT WHITE;
 RIGHT BLACK;DOWN WHITE;DOWN BLACK;UP RIGHT WHITE;UP RIGHT BLACK
@1D152 MUSICAL SYMBOL /MOON NOTEHEAD WHITE;MOON NOTEHEAD BLACK;TRIANGLE-ROUND NOTEHEAD DOWN WHITE;
 TRIANGLE-ROUND NOTEHEAD DOWN BLACK;PARENTHESIS NOTEHEAD;VOID NOTEHEAD;NOTEHEAD BLACK;
 NULL NOTEHEAD;CLUSTER NOTEHEAD WHITE;CLUSTER NOTEHEAD BLACK;BREVE;WHOLE NOTE;HALF NOTE;
 QUARTER NOTE;EIGHTH NOTE;SIXTEENTH NOTE;THIRTY-SECOND NOTE;SIXTY-FOURTH NOTE;
 ONE HUNDRED TWENTY-EIGHTH NOTE
@1D165 MUSICAL SYMBOL COMBINING /STEM;SPRECHGESANG STEM;TREMOLO-1;TREMOLO-2;TREMOLO-3
@1D16A MUSICAL SYMBOL FINGERED /TREMOLO-1;TREMOLO-2;TREMOLO-3
@1D16D MUSICAL SYMBOL COMBINING /AUGMENTATION DOT;FLAG-1;FLAG-2;FLAG-3;FLAG-4;FLAG-5
@1D173 MUSICAL SYMBOL /BEGIN BEAM;END BEAM;BEGIN TIE;END TIE;BEGIN SLUR;END SLUR;BEGIN PHRASE;
 END PHRASE
@1D17B MUSICAL SYMBOL COMBINING /ACCENT;STACCATO;TENUTO;STACCATISSIMO;MARCATO;MARCATO-STACCATO;
 ACCENT-STACCATO;LOURE
@1D183 MUSICAL SYMBOL ARPEGGIATO /UP;DOWN
@1D185 MUSICAL SYMBOL COMBINING /DOIT;RIP;FLIP;SMEAR;BEND;DOUBLE TONGUE;TRIPLE TONGUE
@1D18C MUSICAL SYMBOL /RINFORZANDO;SUBITO;Z;PIANO;MEZZO;FORTE;CRESCENDO;DECRESCENDO;
 GRACE NOTE SLASH;GRACE NOTE NO SLASH;TR;TURN;INVERTED TURN;TURN SLASH;TURN UP
@1D19B MUSICAL SYMBOL ORNAMENT /STROKE-1;STROKE-2;STROKE-3;STROKE-4;STROKE-5;STROKE-6;STROKE-7;
 STROKE-8;STROKE-9;STROKE-10;STROKE-11
@1D1A6 MUSICAL SYMBOL /HAUPTSTIMME;NEBENSTIMME;END OF STIMME;DEGREE SLASH;COMBINING DOWN BOW;
 COMBINING UP BOW;COMBINING HARMONIC;COMBINING SNAP PIZZICATO;PEDAL MARK;PEDAL UP MARK;
 HALF PEDAL MARK;GLISSANDO UP;GLISSANDO DOWN;WITH FINGERNAILS;DAMP;DAMP ALL;MAXIMA;LONGA;BREVIS;
 SEMIBREVIS WHITE;SEMIBREVIS BLACK;MINIMA;MINIMA BLACK;SEMIMINIMA WHITE;SEMIMINIMA BLACK;
 FUSA WHITE;FUSA BLACK;LONGA PERFECTA REST;LONGA IMPERFECTA REST;BREVIS REST;SEMIBREVIS REST;
 MINIMA REST;SEMIMINIMA REST
@1D1C7 MUSICAL SYMBOL TEMPUS PERFECTUM CUM PROLATIONE /PERFECTA;IMPERFECTA;PERFECTA DIMINUTION-1
@1D1CA MUSICAL SYMBOL TEMPUS IMPERFECTUM CUM PROLATIONE /PERFECTA;IMPERFECTA;
 IMPERFECTA DIMINUTION-1;IMPERFECTA DIMINUTION-2;IMPERFECTA DIMINUTION-3
@1D1CF MUSICAL SYMBOL /CROIX;GREGORIAN C CLEF;GREGORIAN F CLEF;SQUARE B;VIRGA;PODATUS;CLIVIS;
 SCANDICUS;CLIMACUS;TORCULUS;PORRECTUS;PORRECTUS FLEXUS;SCANDICUS FLEXUS;TORCULUS RESUPINUS;
 PES SUBPUNCTIS
@1D1DE MUSICAL SYMBOL KIEVAN /C CLEF;END OF PIECE;FINAL NOTE;RECITATIVE MARK;WHOLE NOTE;HALF NOTE;
 QUARTER NOTE STEM DOWN;QUARTER NOTE STEM UP;EIGHTH NOTE STEM DOWN;EIGHTH NOTE STEM UP;FLAT SIGN
@1D1E9 MUSICAL SYMBOL /SORI;KORON
@1D200 GREEK VOCAL NOTATION /SYMBOL-1;SYMBOL-2;SYMBOL-3;SYMBOL-4;SYMBOL-5;SYMBOL-6;SYMBOL-7;
 SYMBOL-8;SYMBOL-9;SYMBOL-10;SYMBOL-11;SYMBOL-12;SYMBOL-13;SYMBOL-14;SYMBOL-15;SYMBOL-16;
 SYMBOL-17;SYMBOL-18;SYMBOL-19;SYMBOL-20;SYMBOL-21;SYMBOL-22;SYMBOL-23;SYMBOL-24;SYMBOL-50;
 SYMBOL-51;SYMBOL-52;SYMBOL-53;SYMBOL-54
@1D21D GREEK INSTRUMENTAL NOTATION /SYMBOL-1;SYMBOL-2;SYMBOL-4;SYMBOL-5;SYMBOL-7;SYMBOL-8;
 SYMBOL-11;SYMBOL-12;SYMBOL-13;SYMBOL-14;SYMBOL-17;SYMBOL-18;SYMBOL-19;SYMBOL-23;SYMBOL-24;
 SYMBOL-25;SYMBOL-26;SYMBOL-27;SYMBOL-29;SYMBOL-30;SYMBOL-32;SYMBOL-36;SYMBOL-37;SYMBOL-38;
 SYMBOL-39;SYMBOL-40;SYMBOL-42;SYMBOL-43;SYMBOL-45;SYMBOL-47;SYMBOL-48;SYMBOL-49;SYMBOL-50;
 SYMBOL-51;SYMBOL-52;SYMBOL-53;SYMBOL-54
@1D242 COMBINING GREEK MUSICAL /TRISEME;TETRASEME;PENTASEME
@1D245 /GREEK MUSICAL LEIMMA
@1D2E0 MAYAN NUMERAL /ZERO;ONE;TWO;THREE;FOUR;FIVE;SIX;SEVEN;EIGHT;NINE;TEN;ELEVEN;TWELVE;
 THIRTEEN;FOURTEEN;FIFTEEN;SIXTEEN;SEVENTEEN;EIGHTEEN;NINETEEN
@1D300 /MONOGRAM FOR EARTH
@1D301 DIGRAM FOR /HEAVENLY EARTH;HUMAN EARTH;EARTHLY HEAVEN;EARTHLY HUMAN;EARTH
@1D306 TETRAGRAM FOR /CENTRE;FULL CIRCLE;MIRED;BARRIER;KEEPING SMALL;CONTRARIETY;ASCENT;
 OPPOSITION;BRANCHING OUT;DEFECTIVENESS OR DISTORTION;DIVERGENCE;YOUTHFULNESS;INCREASE;
 PENETRATION;REACH;CONTACT;HOLDING BACK;WAITING;FOLLOWING;ADVANCE;RELEASE;RESISTANCE;EASE;JOY;
 CONTENTION;ENDEAVOUR;DUTIES;CHANGE;DECISIVENESS;BOLD RESOLUTION;PACKING;LEGION;CLOSENESS;KINSHIP;
 GATHERING;STRENGTH;PURITY;FULLNESS;RESIDENCE;LAW OR MODEL;RESPONSE;GOING TO MEET;ENCOUNTERS;
 STOVE;GREATNESS;ENLARGEMENT;PATTERN;RITUAL;FLIGHT;VASTNESS OR WASTING;CONSTANCY;MEASURE;ETERNITY;
 UNITY;DIMINISHMENT;CLOSED MOUTH;GUARDEDNESS;GATHERING IN;MASSING;ACCUMULATION;EMBELLISHMENT;
 DOUBT;WATCH;SINKING;INNER;DEPARTURE;DARKENING;DIMMING;EXHAUSTION;SEVERANCE;STOPPAGE;HARDNESS;
 COMPLETION;CLOSURE;FAILURE;AGGRAVATION;COMPLIANCE;ON THE VERGE;DIFFICULTIES;LABOURING;FOSTERING
@1D360 COUNTING ROD UNIT DIGIT /ONE;TWO;THREE;FOUR;FIVE;SIX;SEVEN;EIGHT;NINE
@1D369 COUNTING ROD TENS DIGIT /ONE;TWO;THREE;FOUR;FIVE;SIX;SEVEN;EIGHT;NINE
@1D372 IDEOGRAPHIC TALLY MARK /ONE;TWO;THREE;FOUR;FIVE
@1D377 TALLY MARK /ONE;FIVE
@1D400 MATHEMATICAL BOLD CAPITAL /A;B;C;D;E;F;G;H;I;J;K;L;M;N;O;P;Q;R;S;T;U;V;W;X;Y;Z
@1D41A MATHEMATICAL BOLD SMALL /A;B;C;D;E;F;G;H;I;J;K;L;M;N;O;P;Q;R;S;T;U;V;W;X;Y;Z
@1D434 MATHEMATICAL ITALIC CAPITAL /A;B;C;D;E;F;G;H;I;J;K;L;M;N;O;P;Q;R;S;T;U;V;W;X;Y;Z
@1D44E MATHEMATICAL ITALIC SMALL /A;B;C;D;E;F;G
@1D456 MATHEMATICAL ITALIC SMALL /I;J;K;L;M;N;O;P;Q;R;S;T;U;V;W;X;Y;Z
@1D468 MATHEMATICAL BOLD ITALIC CAPITAL /A;B;C;D;E;F;G;H;I;J;K;L;M;N;O;P;Q;R;S;T;U;V;W;X;Y;Z
@1D482 MATHEMATICAL BOLD ITALIC SMALL /A;B;C;D;E;F;G;H;I;J;K;L;M;N;O;P;Q;R;S;T;U;V;W;X;Y;Z
@1D49C /MATHEMATICAL SCRIPT CAPITAL A
@1D49E MATHEMATICAL SCRIPT CAPITAL /C;D
@1D4A2 /MATHEMATICAL SCRIPT CAPITAL G
@1D4A5 MATHEMATICAL SCRIPT CAPITAL /J;K
@1D4A9 MATHEMATICAL SCRIPT CAPITAL /N;O;P;Q
@1D4AE MATHEMATICAL SCRIPT CAPITAL /S;T;U;V;W;X;Y;Z
@1D4B6 MATHEMATICAL SCRIPT SMALL /A;B;C;D
@1D4BB /MATHEMATICAL SCRIPT SMALL F
@1D4BD MATHEMATICAL SCRIPT SMALL /H;I;J;K;L;M;N
@1D4C5 MATHEMATICAL SCRIPT SMALL /P;Q;R;S;T;U;V;W;X;Y;Z
@1D4D0 MATHEMATICAL BOLD SCRIPT CAPITAL /A;B;C;D;E;F;G;H;I;J;K;L;M;N;O;P;Q;R;S;T;U;V;W;X;Y;Z
@1D4EA MATHEMATICAL BOLD SCRIPT SMALL /A;B;C;D;E;F;G;H;I;J;K;L;M;N;O;P;Q;R;S;T;U;V;W;X;Y;Z
@1D504 MATHEMATICAL FRAKTUR CAPITAL /A;B
@1D507 MATHEMATICAL FRAKTUR CAPITAL /D;E;F;G
@1D50D MATHEMATICAL FRAKTUR CAPITAL /J;K;L;M;N;O;P;Q
@1D516 MATHEMATICAL FRAKTUR CAPITAL /S;T;U;V;W;X;Y
@1D51E MATHEMATICAL FRAKTUR SMALL /A;B;C;D;E;F;G;H;I;J;K;L;M;N;O;P;Q;R;S;T;U;V;W;X;Y;Z
@1D538 MATHEMATICAL DOUBLE-STRUCK CAPITAL /A;B
@1D53B MATHEMATICAL DOUBLE-STRUCK CAPITAL /D;E;F;G
@1D540 MATHEMATICAL DOUBLE-STRUCK CAPITAL /I;J;K;L;M
@1D546 /MATHEMATICAL DOUBLE-STRUCK CAPITAL O
@1D54A MATHEMATICAL DOUBLE-STRUCK CAPITAL /S;T;U;V;W;X;Y
@1D552 MATHEMATICAL DOUBLE-STRUCK SMALL /A;B;C;D;E;F;G;H;I;J;K;L;M;N;O;P;Q;R;S;T;U;V;W;X;Y;Z
@1D56C MATHEMATICAL BOLD FRAKTUR CAPITAL /A;B;C;D;E;F;G;H;I;J;K;L;M;N;O;P;Q;R;S;T;U;V;W;X;Y;Z
@1D586 MATHEMATICAL BOLD FRAKTUR SMALL /A;B;C;D;E;F;G;H;I;J;K;L;M;N;O;P;Q;R;S;T;U;V;W;X;Y;Z
@1D5A0 MATHEMATICAL SANS-SERIF CAPITAL /A;B;C;D;E;F;G;H;I;J;K;L;M;N;O;P;Q;R;S;T;U;V;W;X;Y;Z
@1D5BA MATHEMATICAL SANS-SERIF SMALL /A;B;C;D;E;F;G;H;I;J;K;L;M;N;O;P;Q;R;S;T;U;V;W;X;Y;Z
@1D5D4 MATHEMATICAL SANS-SERIF BOLD CAPITAL /A;B;C;D;E;F;G;H;I;J;K;L;M;N;O;P;Q;R;S;T;U;V;W;X;Y;Z
@1D5EE MATHEMATICAL SANS-SERIF BOLD SMALL /A;B;C;D;E;F;G;H;I;J;K;L;M;N;O;P;Q;R;S;T;U;V;W;X;Y;Z
@1D608 MATHEMATICAL SANS-SERIF ITALIC CAPITAL /A;B;C;D;E;F;G;H;I;J;K;L;M;N;O;P;Q;R;S;T;U;V;W;X;Y;Z
@1D622 MATHEMATICAL SANS-SERIF ITALIC SMALL /A;B;C;D;E;F;G;H;I;J;K;L;M;N;O;P;Q;R;S;T;U;V;W;X;Y;Z
@1D63C MATHEMATICAL SANS-SERIF BOLD ITALIC CAPITAL /A;B;C;D;E;F;G;H;I;J;K;L;M;N;O;P;Q;R;S;T;U;V;W;
 X;Y;Z
@1D656 MATHEMATICAL SANS-SERIF BOLD ITALIC SMALL /A;B;C;D;E;F;G;H;I;J;K;L;M;N;O;P;Q;R;S;T;U;V;W;X;
 Y;Z
@1D670 MATHEMATICAL MONOSPACE CAPITAL /A;B;C;D;E;F;G;H;I;J;K;L;M;N;O;P;Q;R;S;T;U;V;W;X;Y;Z
@1D68A MATHEMATICAL MONOSPACE SMALL /A;B;C;D;E;F;G;H;I;J;K;L;M;N;O;P;Q;R;S;T;U;V;W;X;Y;Z
@1D6A4 MATHEMATICAL ITALIC SMALL DOTLESS /I;J
@1D6A8 MATHEMATICAL BOLD CAPITAL /ALPHA;BETA;GAMMA;DELTA;EPSILON;ZETA;ETA;THETA;IOTA;KAPPA;LAMDA;
 MU;NU;XI;OMICRON;PI;RHO;THETA SYMBOL;SIGMA;TAU;UPSILON;PHI;CHI;PSI;OMEGA
@1D6C1 /MATHEMATICAL BOLD NABLA
@1D6C2 MATHEMATICAL BOLD SMALL /ALPHA;BETA;GAMMA;DELTA;EPSILON;ZETA;ETA;THETA;IOTA;KAPPA;LAMDA;MU;
 NU;XI;OMICRON;PI;RHO;FINAL SIGMA;SIGMA;TAU;UPSILON;PHI;CHI;PSI;OMEGA
@1D6DB MATHEMATICAL BOLD /PARTIAL DIFFERENTIAL;EPSILON SYMBOL;THETA SYMBOL;KAPPA SYMBOL;
 PHI SYMBOL;RHO SYMBOL;PI SYMBOL
@1D6E2 MATHEMATICAL ITALIC CAPITAL /ALPHA;BETA;GAMMA;DELTA;EPSILON;ZETA;ETA;THETA;IOTA;KAPPA;
 LAMDA;MU;NU;XI;OMICRON;PI;RHO;THETA SYMBOL;SIGMA;TAU;UPSILON;PHI;CHI;PSI;OMEGA
@1D6FB /MATHEMATICAL ITALIC NABLA
@1D6FC MATHEMATICAL ITALIC SMALL /ALPHA;BETA;GAMMA;DELTA;EPSILON;ZETA;ETA;THETA;IOTA;KAPPA;LAMDA;
 MU;NU;XI;OMICRON;PI;RHO;FINAL SIGMA;SIGMA;TAU;UPSILON;PHI;CHI;PSI;OMEGA
@1D715 MATHEMATICAL ITALIC /PARTIAL DIFFERENTIAL;EPSILON SYMBOL;THETA SYMBOL;KAPPA SYMBOL;
 PHI SYMBOL;RHO SYMBOL;PI SYMBOL
@1D71C MATHEMATICAL BOLD ITALIC CAPITAL /ALPHA;BETA;GAMMA;DELTA;EPSILON;ZETA;ETA;THETA;IOTA;KAPPA;
 LAMDA;MU;NU;XI;OMICRON;PI;RHO;THETA SYMBOL;SIGMA;TAU;UPSILON;PHI;CHI;PSI;OMEGA
@1D735 /MATHEMATICAL BOLD ITALIC NABLA
@1D736 MATHEMATICAL BOLD ITALIC SMALL /ALPHA;BETA;GAMMA;DELTA;EPSILON;ZETA;ETA;THETA;IOTA;KAPPA;
 LAMDA;MU;NU;XI;OMICRON;PI;RHO;FINAL SIGMA;SIGMA;TAU;UPSILON;PHI;CHI;PSI;OMEGA
@1D74F MATHEMATICAL BOLD ITALIC /PARTIAL DIFFERENTIAL;EPSILON SYMBOL;THETA SYMBOL;KAPPA SYMBOL;
 PHI SYMBOL;RHO SYMBOL;PI SYMBOL
@1D756 MATHEMATICAL SANS-SERIF BOLD CAPITAL /ALPHA;BETA;GAMMA;DELTA;EPSILON;ZETA;ETA;THETA;IOTA;
 KAPPA;LAMDA;MU;NU;XI;OMICRON;PI;RHO;THETA SYMBOL;SIGMA;TAU;UPSILON;PHI;CHI;PSI;OMEGA
@1D76F /MATHEMATICAL SANS-SERIF BOLD NABLA
@1D770 MATHEMATICAL SANS-SERIF BOLD SMALL /ALPHA;BETA;GAMMA;DELTA;EPSILON;ZETA;ETA;THETA;IOTA;
 KAPPA;LAMDA;MU;NU;XI;OMICRON;PI;RHO;FINAL SIGMA;SIGMA;TAU;UPSILON;PHI;CHI;PSI;OMEGA
@1D789 MATHEMATICAL SANS-SERIF BOLD /PARTIAL DIFFERENTIAL;EPSILON SYMBOL;THETA SYMBOL;
 KAPPA SYMBOL;PHI SYMBOL;RHO SYMBOL;PI SYMBOL
@1D790 MATHEMATICAL SANS-SERIF BOLD ITALIC CAPITAL /ALPHA;BETA;GAMMA;DELTA;EPSILON;ZETA;ETA;THETA;
 IOTA;KAPPA;LAMDA;MU;NU;XI;OMICRON;PI;RHO;THETA SYMBOL;SIGMA;TAU;UPSILON;PHI;CHI;PSI;OMEGA
@1D7A9 /MATHEMATICAL SANS-SERIF BOLD ITALIC NABLA
@1D7AA MATHEMATICAL SANS-SERIF BOLD ITALIC SMALL /ALPHA;BETA;GAMMA;DELTA;EPSILON;ZETA;ETA;THETA;
 IOTA;KAPPA;LAMDA;MU;NU;XI;OMICRON;PI;RHO;FINAL SIGMA;SIGMA;TAU;UPSILON;PHI;CHI;PSI;OMEGA
@1D7C3 MATHEMATICAL SANS-SERIF BOLD ITALIC /PARTIAL DIFFERENTIAL;EPSILON SYMBOL;THETA SYMBOL;
 KAPPA SYMBOL;PHI SYMBOL;RHO SYMBOL;PI SYMBOL
@1D7CA MATHEMATICAL BOLD /CAPITAL DIGAMMA;SMALL DIGAMMA
@1D7CE MATHEMATICAL BOLD DIGIT /ZERO;ONE;TWO;THREE;FOUR;FIVE;SIX;SEVEN;EIGHT;NINE
@1D7D8 MATHEMATICAL DOUBLE-STRUCK DIGIT /ZERO;ONE;TWO;THREE;FOUR;FIVE;SIX;SEVEN;EIGHT;NINE
@1D7E2 MATHEMATICAL SANS-SERIF DIGIT /ZERO;ONE;TWO;THREE;FOUR;FIVE;SIX;SEVEN;EIGHT;NINE
@1D7EC MATHEMATICAL SANS-SERIF BOLD DIGIT /ZERO;ONE;TWO;THREE;FOUR;FIVE;SIX;SEVEN;EIGHT;NINE
@1D7F6 MATHEMATICAL MONOSPACE DIGIT /ZERO;ONE;TWO;THREE;FOUR;FIVE;SIX;SEVEN;EIGHT;NINE
@1D800 SIGNWRITING HAND-/FIST INDEX;CIRCLE INDEX;CUP INDEX;OVAL INDEX;HINGE INDEX;ANGLE INDEX;
 FIST INDEX BENT;CIRCLE INDEX BENT;FIST THUMB UNDER INDEX BENT;FIST INDEX RAISED KNUCKLE;
 FIST INDEX CUPPED;FIST INDEX HINGED;FIST INDEX HINGED LOW;CIRCLE INDEX HINGE;FIST INDEX MIDDLE;
 CIRCLE INDEX MIDDLE
@1D810 SIGNWRITING HAND-FIST INDEX /MIDDLE BENT;MIDDLE RAISED KNUCKLES;MIDDLE HINGED;
 UP MIDDLE HINGED;HINGED MIDDLE UP;MIDDLE CONJOINED
@1D816 SIGNWRITING HAND-FIST INDEX MIDDLE CONJOINED /INDEX BENT;MIDDLE BENT;CUPPED;HINGED
@1D81A SIGNWRITING HAND-/FIST INDEX MIDDLE CROSSED;CIRCLE INDEX MIDDLE CROSSED;
 FIST MIDDLE BENT OVER INDEX;FIST INDEX BENT OVER MIDDLE;FIST INDEX MIDDLE THUMB;
 CIRCLE INDEX MIDDLE THUMB
@1D820 SIGNWRITING HAND-FIST INDEX /MIDDLE STRAIGHT THUMB BENT;MIDDLE BENT THUMB STRAIGHT;
 MIDDLE THUMB BENT;MIDDLE HINGED SPREAD THUMB SIDE;UP MIDDLE HINGED THUMB SIDE;
 UP MIDDLE HINGED THUMB CONJOINED;HINGED MIDDLE UP THUMB SIDE;MIDDLE UP SPREAD THUMB FORWARD;
 MIDDLE THUMB CUPPED;MIDDLE THUMB CIRCLED;MIDDLE THUMB HOOKED;MIDDLE THUMB HINGED
@1D82C SIGNWRITING HAND-FIST /THUMB BETWEEN INDEX MIDDLE STRAIGHT;
 INDEX MIDDLE CONJOINED THUMB SIDE;INDEX MIDDLE CONJOINED THUMB SIDE CONJOINED;
 INDEX MIDDLE CONJOINED THUMB SIDE BENT;MIDDLE THUMB HOOKED INDEX UP;INDEX THUMB HOOKED MIDDLE UP;
 INDEX MIDDLE CONJOINED HINGED THUMB SIDE;INDEX MIDDLE CROSSED THUMB SIDE;
 INDEX MIDDLE CONJOINED THUMB FORWARD;INDEX MIDDLE CONJOINED CUPPED THUMB FORWARD;
 MIDDLE THUMB CUPPED INDEX UP;INDEX THUMB CUPPED MIDDLE UP;MIDDLE THUMB CIRCLED INDEX UP;
 MIDDLE THUMB CIRCLED INDEX HINGED;INDEX THUMB ANGLED OUT MIDDLE UP;
 INDEX THUMB ANGLED IN MIDDLE UP;INDEX THUMB CIRCLED MIDDLE UP;
 INDEX MIDDLE THUMB CONJOINED HINGED;INDEX MIDDLE THUMB ANGLED OUT;INDEX MIDDLE THUMB ANGLED;
 MIDDLE THUMB ANGLED OUT INDEX UP;MIDDLE THUMB ANGLED OUT INDEX CROSSED;
 MIDDLE THUMB ANGLED INDEX UP;INDEX THUMB HOOKED MIDDLE HINGED
@1D844 SIGNWRITING HAND-FLAT FOUR /FINGERS;FINGERS BENT;FINGERS HINGED;FINGERS CONJOINED;
 FINGERS CONJOINED SPLIT
@1D849 SIGNWRITING HAND-/CLAW FOUR FINGERS CONJOINED;FIST FOUR FINGERS CONJOINED BENT;
 HINGE FOUR FINGERS CONJOINED;FLAT FIVE FINGERS SPREAD;FLAT HEEL FIVE FINGERS SPREAD;
 FLAT FIVE FINGERS SPREAD FOUR BENT;FLAT HEEL FIVE FINGERS SPREAD FOUR BENT;
 FLAT FIVE FINGERS SPREAD BENT;FLAT HEEL FIVE FINGERS SPREAD BENT;
 FLAT FIVE FINGERS SPREAD THUMB FORWARD;CUP FIVE FINGERS SPREAD;CUP FIVE FINGERS SPREAD OPEN;
 HINGE FIVE FINGERS SPREAD OPEN;OVAL FIVE FINGERS SPREAD;FLAT FIVE FINGERS SPREAD HINGED;
 FLAT FIVE FINGERS SPREAD HINGED THUMB SIDE;FLAT FIVE FINGERS SPREAD HINGED NO THUMB;FLAT;
 FLAT BETWEEN PALM FACINGS;FLAT HEEL;FLAT THUMB SIDE;FLAT HEEL THUMB SIDE;FLAT THUMB BENT;
 FLAT THUMB FORWARD;FLAT SPLIT INDEX THUMB SIDE;FLAT SPLIT CENTRE;FLAT SPLIT CENTRE THUMB SIDE;
 FLAT SPLIT CENTRE THUMB SIDE BENT;FLAT SPLIT LITTLE;CLAW;CLAW THUMB SIDE;CLAW NO THUMB;
 CLAW THUMB FORWARD;HOOK CURLICUE;HOOK;CUP OPEN;CUP;CUP OPEN THUMB SIDE;CUP THUMB SIDE;
 CUP OPEN NO THUMB;CUP NO THUMB;CUP OPEN THUMB FORWARD;CUP THUMB FORWARD;CURLICUE OPEN;CURLICUE;
 CIRCLE;OVAL;OVAL THUMB SIDE;OVAL NO THUMB;OVAL THUMB FORWARD;HINGE OPEN;HINGE OPEN THUMB FORWARD;
 HINGE;HINGE SMALL;HINGE OPEN THUMB SIDE;HINGE THUMB SIDE;HINGE OPEN NO THUMB;HINGE NO THUMB;
 HINGE THUMB SIDE TOUCHING INDEX;HINGE THUMB BETWEEN MIDDLE RING;ANGLE;FIST INDEX MIDDLE RING;
 CIRCLE INDEX MIDDLE RING;HINGE INDEX MIDDLE RING;ANGLE INDEX MIDDLE RING;HINGE LITTLE;
 FIST INDEX MIDDLE RING BENT;FIST INDEX MIDDLE RING CONJOINED;HINGE INDEX MIDDLE RING CONJOINED;
 FIST LITTLE DOWN;FIST LITTLE DOWN RIPPLE STRAIGHT;FIST LITTLE DOWN RIPPLE CURVED;
 FIST LITTLE DOWN OTHERS CIRCLED;FIST LITTLE UP;FIST THUMB UNDER LITTLE UP;CIRCLE LITTLE UP;
 OVAL LITTLE UP;ANGLE LITTLE UP;FIST LITTLE RAISED KNUCKLE;FIST LITTLE BENT;
 FIST LITTLE TOUCHES THUMB;FIST LITTLE THUMB;HINGE LITTLE THUMB;FIST LITTLE INDEX THUMB;
 HINGE LITTLE INDEX THUMB;ANGLE LITTLE INDEX THUMB INDEX THUMB OUT;
 ANGLE LITTLE INDEX THUMB INDEX THUMB;FIST LITTLE INDEX;CIRCLE LITTLE INDEX;HINGE LITTLE INDEX;
 ANGLE LITTLE INDEX;FIST INDEX MIDDLE LITTLE;CIRCLE INDEX MIDDLE LITTLE;HINGE INDEX MIDDLE LITTLE;
 HINGE RING;ANGLE INDEX MIDDLE LITTLE;FIST INDEX MIDDLE CROSS LITTLE;
 CIRCLE INDEX MIDDLE CROSS LITTLE;FIST RING DOWN;HINGE RING DOWN INDEX THUMB HOOK MIDDLE;
 ANGLE RING DOWN MIDDLE THUMB INDEX CROSS;FIST RING UP;FIST RING RAISED KNUCKLE;FIST RING LITTLE;
 CIRCLE RING LITTLE;OVAL RING LITTLE;ANGLE RING LITTLE;FIST RING MIDDLE;
 FIST RING MIDDLE CONJOINED;FIST RING MIDDLE RAISED KNUCKLES;FIST RING INDEX;FIST RING THUMB;
 HOOK RING THUMB;FIST INDEX RING LITTLE;CIRCLE INDEX RING LITTLE;CURLICUE INDEX RING LITTLE ON;
 HOOK INDEX RING LITTLE OUT;HOOK INDEX RING LITTLE IN;HOOK INDEX RING LITTLE UNDER;
 CUP INDEX RING LITTLE;HINGE INDEX RING LITTLE;ANGLE INDEX RING LITTLE OUT;
 ANGLE INDEX RING LITTLE;FIST MIDDLE DOWN;HINGE MIDDLE;FIST MIDDLE UP;CIRCLE MIDDLE UP;
 FIST MIDDLE RAISED KNUCKLE;FIST MIDDLE UP THUMB SIDE;HOOK MIDDLE THUMB;FIST MIDDLE THUMB LITTLE;
 FIST MIDDLE LITTLE;FIST MIDDLE RING LITTLE;CIRCLE MIDDLE RING LITTLE;
 CURLICUE MIDDLE RING LITTLE ON;CUP MIDDLE RING LITTLE;HINGE MIDDLE RING LITTLE;
 ANGLE MIDDLE RING LITTLE OUT;ANGLE MIDDLE RING LITTLE IN;ANGLE MIDDLE RING LITTLE;
 CIRCLE MIDDLE RING LITTLE BENT;CLAW MIDDLE RING LITTLE CONJOINED;
 CLAW MIDDLE RING LITTLE CONJOINED SIDE;HOOK MIDDLE RING LITTLE CONJOINED OUT;
 HOOK MIDDLE RING LITTLE CONJOINED IN;HOOK MIDDLE RING LITTLE CONJOINED;HINGE INDEX HINGED;
 FIST INDEX THUMB SIDE;HINGE INDEX THUMB SIDE
@1D8DE SIGNWRITING HAND-FIST INDEX THUMB /SIDE THUMB DIAGONAL;SIDE THUMB CONJOINED;
 SIDE THUMB BENT;SIDE INDEX BENT;SIDE BOTH BENT;SIDE INDEX HINGE;FORWARD INDEX STRAIGHT;
 FORWARD INDEX BENT;HOOK;CURLICUE;CURVE THUMB INSIDE
@1D8E9 SIGNWRITING HAND-/CLAW INDEX THUMB CURVE THUMB INSIDE;FIST INDEX THUMB CURVE THUMB UNDER;
 FIST INDEX THUMB CIRCLE;CUP INDEX THUMB;CUP INDEX THUMB OPEN;HINGE INDEX THUMB OPEN;
 HINGE INDEX THUMB LARGE;HINGE INDEX THUMB;HINGE INDEX THUMB SMALL;ANGLE INDEX THUMB OUT;
 ANGLE INDEX THUMB IN;ANGLE INDEX THUMB;FIST THUMB
@1D8F6 SIGNWRITING HAND-FIST THUMB /HEEL;SIDE DIAGONAL;SIDE CONJOINED;SIDE BENT;FORWARD;
 BETWEEN INDEX MIDDLE;BETWEEN MIDDLE RING;BETWEEN RING LITTLE;UNDER TWO FINGERS;OVER TWO FINGERS;
 UNDER THREE FINGERS;UNDER FOUR FINGERS;OVER FOUR RAISED KNUCKLES
@1D903 SIGNWRITING /HAND-FIST;HAND-FIST HEEL;TOUCH SINGLE;TOUCH MULTIPLE;TOUCH BETWEEN;
 GRASP SINGLE;GRASP MULTIPLE;GRASP BETWEEN;STRIKE SINGLE;STRIKE MULTIPLE;STRIKE BETWEEN;
 BRUSH SINGLE;BRUSH MULTIPLE;BRUSH BETWEEN;RUB SINGLE;RUB MULTIPLE;RUB BETWEEN;SURFACE SYMBOLS;
 SURFACE BETWEEN;SQUEEZE LARGE SINGLE;SQUEEZE SMALL SINGLE;SQUEEZE LARGE MULTIPLE;
 SQUEEZE SMALL MULTIPLE;SQUEEZE SEQUENTIAL;FLICK LARGE SINGLE;FLICK SMALL SINGLE;
 FLICK LARGE MULTIPLE;FLICK SMALL MULTIPLE;FLICK SEQUENTIAL;SQUEEZE FLICK ALTERNATING
@1D921 SIGNWRITING MOVEMENT-HINGE /UP DOWN LARGE;UP DOWN SMALL;UP SEQUENTIAL;DOWN SEQUENTIAL;
 UP DOWN ALTERNATING LARGE;UP DOWN ALTERNATING SMALL;SIDE TO SIDE SCISSORS
@1D928 SIGNWRITING MOVEMENT-/WALLPLANE FINGER CONTACT;FLOORPLANE FINGER CONTACT
@1D92A SIGNWRITING MOVEMENT-WALLPLANE SINGLE STRAIGHT /SMALL;MEDIUM;LARGE;LARGEST
@1D92E SIGNWRITING MOVEMENT-WALLPLANE /SINGLE WRIST FLEX;DOUBLE STRAIGHT;DOUBLE WRIST FLEX;
 DOUBLE ALTERNATING;DOUBLE ALTERNATING WRIST FLEX;CROSS;TRIPLE STRAIGHT MOVEMENT;
 TRIPLE WRIST FLEX;TRIPLE ALTERNATING;TRIPLE ALTERNATING WRIST FLEX;BEND SMALL;BEND MEDIUM;
 BEND LARGE;CORNER SMALL;CORNER MEDIUM;CORNER LARGE;CORNER ROTATION;CHECK SMALL;CHECK MEDIUM;
 CHECK LARGE;BOX SMALL;BOX MEDIUM;BOX LARGE;ZIGZAG SMALL;ZIGZAG MEDIUM;ZIGZAG LARGE;PEAKS SMALL;
 PEAKS MEDIUM;PEAKS LARGE
@1D94B SIGNWRITING TRAVEL-WALLPLANE ROTATION-/WALLPLANE SINGLE;WALLPLANE DOUBLE;
 WALLPLANE ALTERNATING;FLOORPLANE SINGLE;FLOORPLANE DOUBLE;FLOORPLANE ALTERNATING
@1D951 SIGNWRITING TRAVEL-WALLPLANE /SHAKING;ARM SPIRAL SINGLE;ARM SPIRAL DOUBLE;ARM SPIRAL TRIPLE
@1D955 SIGNWRITING MOVEMENT-DIAGONAL /AWAY SMALL;AWAY MEDIUM;AWAY LARGE;AWAY LARGEST;
 TOWARDS SMALL;TOWARDS MEDIUM;TOWARDS LARGE;TOWARDS LARGEST
@1D95D SIGNWRITING MOVEMENT-DIAGONAL BETWEEN /AWAY SMALL;AWAY MEDIUM;AWAY LARGE;AWAY LARGEST;
 TOWARDS SMALL;TOWARDS MEDIUM;TOWARDS LARGE;TOWARDS LARGEST
@1D965 SIGNWRITING MOVEMENT-FLOORPLANE SINGLE STRAIGHT /SMALL;MEDIUM;LARGE;LARGEST
@1D969 SIGNWRITING MOVEMENT-FLOORPLANE /SINGLE WRIST FLEX;DOUBLE STRAIGHT;DOUBLE WRIST FLEX;
 DOUBLE ALTERNATING;DOUBLE ALTERNATING WRIST FLEX;CROSS;TRIPLE STRAIGHT MOVEMENT;
 TRIPLE WRIST FLEX;TRIPLE ALTERNATING MOVEMENT;TRIPLE ALTERNATING WRIST FLEX;BEND;CORNER SMALL;
 CORNER MEDIUM;CORNER LARGE;CHECK;BOX SMALL;BOX MEDIUM;BOX LARGE;ZIGZAG SMALL;ZIGZAG MEDIUM;
 ZIGZAG LARGE;PEAKS SMALL;PEAKS MEDIUM;PEAKS LARGE
@1D981 SIGNWRITING TRAVEL-FLOORPLANE ROTATION-/FLOORPLANE SINGLE;FLOORPLANE DOUBLE;
 FLOORPLANE ALTERNATING;WALLPLANE SINGLE;WALLPLANE DOUBLE;WALLPLANE ALTERNATING
@1D987 /SIGNWRITING TRAVEL-FLOORPLANE SHAKING
@1D988 SIGNWRITING MOVEMENT-WALLPLANE CURVE QUARTER /SMALL;MEDIUM;LARGE;LARGEST
@1D98C SIGNWRITING MOVEMENT-WALLPLANE CURVE HALF-CIRCLE /SMALL;MEDIUM;LARGE;LARGEST
@1D990 SIGNWRITING MOVEMENT-WALLPLANE /CURVE THREE-QUARTER CIRCLE SMALL;
 CURVE THREE-QUARTER CIRCLE MEDIUM;HUMP SMALL;HUMP MEDIUM;HUMP LARGE;LOOP SMALL;LOOP MEDIUM;
 LOOP LARGE;LOOP SMALL DOUBLE;WAVE CURVE DOUBLE SMALL;WAVE CURVE DOUBLE MEDIUM;
 WAVE CURVE DOUBLE LARGE;WAVE CURVE TRIPLE SMALL;WAVE CURVE TRIPLE MEDIUM;WAVE CURVE TRIPLE LARGE;
 CURVE THEN STRAIGHT;CURVED CROSS SMALL;CURVED CROSS MEDIUM
@1D9A2 SIGNWRITING ROTATION-WALLPLANE /SINGLE;DOUBLE;ALTERNATE
@1D9A5 SIGNWRITING MOVEMENT-WALLPLANE /SHAKING;CURVE HITTING FRONT WALL;HUMP HITTING FRONT WALL;
 LOOP HITTING FRONT WALL;WAVE HITTING FRONT WALL
@1D9AA SIGNWRITING ROTATION-WALLPLANE /SINGLE HITTING FRONT WALL;DOUBLE HITTING FRONT WALL;
 ALTERNATING HITTING FRONT WALL
@1D9AD SIGNWRITING MOVEMENT-WALLPLANE /CURVE HITTING CHEST;HUMP HITTING CHEST;LOOP HITTING CHEST;
 WAVE HITTING CHEST
@1D9B1 SIGNWRITING ROTATION-WALLPLANE /SINGLE HITTING CHEST;DOUBLE HITTING CHEST;
 ALTERNATING HITTING CHEST
@1D9B4 SIGNWRITING MOVEMENT-WALLPLANE WAVE DIAGONAL PATH /SMALL;MEDIUM;LARGE
@1D9B7 SIGNWRITING MOVEMENT-FLOORPLANE CURVE HITTING CEILING /SMALL;LARGE
@1D9B9 SIGNWRITING MOVEMENT-FLOORPLANE HUMP HITTING CEILING /SMALL DOUBLE;LARGE DOUBLE;
 SMALL TRIPLE;LARGE TRIPLE
@1D9BD SIGNWRITING MOVEMENT-FLOORPLANE LOOP HITTING CEILING /SMALL SINGLE;LARGE SINGLE;
 SMALL DOUBLE;LARGE DOUBLE
@1D9C1 SIGNWRITING MOVEMENT-FLOORPLANE WAVE HITTING CEILING /SMALL;LARGE
@1D9C3 SIGNWRITING ROTATION-FLOORPLANE /SINGLE HITTING CEILING;DOUBLE HITTING CEILING;
 ALTERNATING HITTING CEILING
@1D9C6 SIGNWRITING MOVEMENT-FLOORPLANE CURVE HITTING FLOOR /SMALL;LARGE
@1D9C8 SIGNWRITING MOVEMENT-FLOORPLANE HUMP HITTING FLOOR /SMALL DOUBLE;LARGE DOUBLE;
 TRIPLE SMALL TRIPLE;TRIPLE LARGE TRIPLE
@1D9CC SIGNWRITING MOVEMENT-FLOORPLANE LOOP HITTING FLOOR /SMALL SINGLE;LARGE SINGLE;SMALL DOUBLE;
 LARGE DOUBLE
@1D9D0 SIGNWRITING MOVEMENT-FLOORPLANE WAVE HITTING FLOOR /SMALL;LARGE
@1D9D2 SIGNWRITING ROTATION-FLOORPLANE /SINGLE HITTING FLOOR;DOUBLE HITTING FLOOR;
 ALTERNATING HITTING FLOOR
@1D9D5 SIGNWRITING MOVEMENT-FLOORPLANE /CURVE SMALL;CURVE MEDIUM;CURVE LARGE;CURVE LARGEST;
 CURVE COMBINED;HUMP SMALL;LOOP SMALL;WAVE SNAKE;WAVE SMALL;WAVE LARGE
@1D9DF SIGNWRITING ROTATION-FLOORPLANE /SINGLE;DOUBLE;ALTERNATING
@1D9E2 SIGNWRITING MOVEMENT-FLOORPLANE SHAKING /PARALLEL
@1D9E3 SIGNWRITING MOVEMENT-WALLPLANE ARM CIRCLE /SMALL SINGLE;MEDIUM SINGLE;SMALL DOUBLE;
 MEDIUM DOUBLE
@1D9E7 SIGNWRITING MOVEMENT-FLOORPLANE ARM CIRCLE HITTING WALL /SMALL SINGLE;MEDIUM SINGLE;
 LARGE SINGLE;SMALL DOUBLE;MEDIUM DOUBLE;LARGE DOUBLE
@1D9ED SIGNWRITING MOVEMENT-WALLPLANE WRIST CIRCLE FRONT /SINGLE;DOUBLE
@1D9EF SIGNWRITING MOVEMENT-FLOORPLANE WRIST CIRCLE HITTING WALL /SINGLE;DOUBLE
@1D9F1 SIGNWRITING MOVEMENT-WALLPLANE FINGER CIRCLES /SINGLE;DOUBLE
@1D9F3 SIGNWRITING MOVEMENT-FLOORPLANE FINGER CIRCLES HITTING WALL /SINGLE;DOUBLE
@1D9F5 SIGNWRITING DYNAMIC /ARROWHEAD SMALL;ARROWHEAD LARGE;FAST;SLOW;TENSE;RELAXED;SIMULTANEOUS;
 SIMULTANEOUS ALTERNATING;EVERY OTHER TIME;GRADUAL
@1D9FF SIGNWRITING /HEAD;HEAD RIM
@1DA01 SIGNWRITING HEAD MOVEMENT-/WALLPLANE STRAIGHT;WALLPLANE TILT;FLOORPLANE STRAIGHT;
 WALLPLANE CURVE;FLOORPLANE CURVE
@1DA06 /SIGNWRITING HEAD MOVEMENT CIRCLE
@1DA07 SIGNWRITING FACE DIRECTION POSITION NOSE /FORWARD TILTING;UP OR DOWN;UP OR DOWN TILTING
@1DA0A SIGNWRITING EYEBROWS STRAIGHT /UP;NEUTRAL;DOWN
@1DA0D SIGNWRITING DREAMY EYEBROWS /NEUTRAL DOWN;DOWN NEUTRAL;UP NEUTRAL;NEUTRAL UP
@1DA11 SIGNWRITING /FOREHEAD NEUTRAL;FOREHEAD CONTACT;FOREHEAD WRINKLED;EYES OPEN;EYES SQUEEZED;
 EYES CLOSED;EYE BLINK SINGLE;EYE BLINK MULTIPLE;EYES HALF OPEN;EYES WIDE OPEN;EYES HALF CLOSED;
 EYES WIDENING MOVEMENT;EYE WINK;EYELASHES UP;EYELASHES DOWN;EYELASHES FLUTTERING
@1DA21 SIGNWRITING EYEGAZE-/WALLPLANE STRAIGHT;WALLPLANE STRAIGHT DOUBLE;
 WALLPLANE STRAIGHT ALTERNATING;FLOORPLANE STRAIGHT;FLOORPLANE STRAIGHT DOUBLE;
 FLOORPLANE STRAIGHT ALTERNATING;WALLPLANE CURVED;FLOORPLANE CURVED;WALLPLANE CIRCLING
@1DA2A SIGNWRITING /CHEEKS PUFFED;CHEEKS NEUTRAL;CHEEKS SUCKED;TENSE CHEEKS HIGH;
 TENSE CHEEKS MIDDLE;TENSE CHEEKS LOW;EARS;NOSE NEUTRAL;NOSE CONTACT;NOSE WRINKLES;NOSE WIGGLES;
 AIR BLOWING OUT;AIR SUCKING IN;AIR BLOW SMALL ROTATIONS;AIR SUCK SMALL ROTATIONS;BREATH INHALE;
 BREATH EXHALE
@1DA3B SIGNWRITING MOUTH /CLOSED NEUTRAL;CLOSED FORWARD;CLOSED CONTACT;SMILE;SMILE WRINKLED;
 SMILE OPEN;FROWN;FROWN WRINKLED;FROWN OPEN;OPEN CIRCLE;OPEN FORWARD;OPEN WRINKLED;OPEN OVAL;
 OPEN OVAL WRINKLED;OPEN OVAL YAWN;OPEN RECTANGLE;OPEN RECTANGLE WRINKLED;OPEN RECTANGLE YAWN;
 KISS;KISS FORWARD;KISS WRINKLED;TENSE;TENSE FORWARD;TENSE SUCKED
@1DA53 SIGNWRITING /LIPS PRESSED TOGETHER;LIP LOWER OVER UPPER;LIP UPPER OVER LOWER;MOUTH CORNERS;
 MOUTH WRINKLES SINGLE;MOUTH WRINKLES DOUBLE
@1DA59 SIGNWRITING TONGUE /STICKING OUT FAR;LICKING LIPS;TIP BETWEEN LIPS;
 TIP TOUCHING INSIDE MOUTH;INSIDE MOUTH RELAXED;MOVES AGAINST CHEEK;CENTRE STICKING OUT;
 CENTRE INSIDE MOUTH
@1DA61 SIGNWRITING /TEETH;TEETH MOVEMENT;TEETH ON TONGUE;TEETH ON TONGUE MOVEMENT;TEETH ON LIPS;
 TEETH ON LIPS MOVEMENT;TEETH BITE LIPS;MOVEMENT-WALLPLANE JAW;MOVEMENT-FLOORPLANE JAW;NECK;HAIR;
 EXCITEMENT;SHOULDER HIP SPINE;SHOULDER HIP POSITIONS;WALLPLANE SHOULDER HIP MOVE;
 FLOORPLANE SHOULDER HIP MOVE;SHOULDER TILTING FROM WAIST;TORSO-WALLPLANE STRAIGHT STRETCH;
 TORSO-WALLPLANE CURVED BEND;TORSO-FLOORPLANE TWISTING;UPPER BODY TILTING FROM HIP JOINTS;
 LIMB COMBINATION;LIMB LENGTH-1;LIMB LENGTH-2;LIMB LENGTH-3;LIMB LENGTH-4;LIMB LENGTH-5;
 LIMB LENGTH-6;LIMB LENGTH-7;FINGER;LOCATION-WALLPLANE SPACE;LOCATION-FLOORPLANE SPACE;
 LOCATION HEIGHT;LOCATION WIDTH;LOCATION DEPTH;LOCATION HEAD NECK;LOCATION TORSO;
 LOCATION LIMBS DIGITS;COMMA;FULL STOP;SEMICOLON;COLON;PARENTHESIS
@1DA9B SIGNWRITING FILL /MODIFIER-2;MODIFIER-3;MODIFIER-4;MODIFIER-5;MODIFIER-6
@1DAA1 SIGNWRITING ROTATION /MODIFIER-2;MODIFIER-3;MODIFIER-4;MODIFIER-5;MODIFIER-6;MODIFIER-7;
 MODIFIER-8;MODIFIER-9;MODIFIER-10;MODIFIER-11;MODIFIER-12;MODIFIER-13;MODIFIER-14;MODIFIER-15;
 MODIFIER-16
@1DF00 LATIN /SMALL LETTER FENG DIGRAPH WITH TRILL;SMALL LETTER REVERSED SCRIPT G;
 LETTER SMALL CAPITAL TURNED G;SMALL LETTER REVERSED K;LETTER SMALL CAPITAL L WITH BELT
@1DF05 LATIN SMALL LETTER /LEZH WITH RETROFLEX HOOK;TURNED Y WITH BELT;REVERSED ENG;
 TURNED R WITH LONG LEG AND RETROFLEX HOOK;T WITH HOOK AND RETROFLEX HOOK
@1DF0A /LATIN LETTER RETROFLEX CLICK WITH RETROFLEX HOOK
@1DF0B LATIN SMALL LETTER /ESH WITH DOUBLE BAR;ESH WITH DOUBLE BAR AND CURL;TURNED T WITH CURL
@1DF0E LATIN LETTER /INVERTED GLOTTAL STOP WITH CURL;STRETCHED C WITH CURL;SMALL CAPITAL TURNED K
@1DF11 LATIN SMALL LETTER /L WITH FISHHOOK;DEZH DIGRAPH WITH PALATAL HOOK;
 L WITH BELT AND PALATAL HOOK;ENG WITH PALATAL HOOK;TURNED R WITH PALATAL HOOK;
 R WITH FISHHOOK AND PALATAL HOOK;TESH DIGRAPH WITH PALATAL HOOK;EZH WITH PALATAL HOOK;
 DEZH DIGRAPH WITH RETROFLEX HOOK;I WITH STROKE AND RETROFLEX HOOK;O WITH RETROFLEX HOOK;
 TESH DIGRAPH WITH RETROFLEX HOOK;C WITH RETROFLEX HOOK;S WITH CURL"

end CharName
end Text
end Wdl
